import SpotSettlement.Proofs.Broker.Groups
import SpotSettlement.Proofs.Delivery.Rows

namespace SpotSettlement

/-! # What an event makes of the messages at the broker

Messages stay at the broker.  Only a pass of the worker acknowledges any, and only such as announce
no order, or one that is no longer new.
-/

/-- The broker has a message with what the row announces, in the topic of the row. -/
def Broker.Carries (broker : Broker) (row : OutboxRow) : Prop :=
  ∃ message ∈ broker.messages, message.topic = row.topic ∧ message.payload = row.payload

/-- One broker has the messages of another, and perhaps more, and its groups have acknowledged the
same ones. -/
structure Broker.Extends (after broker : Broker) : Prop where
  messages : broker.messages ⊆ after.messages
  sound : after.Sound
  acknowledged : ∀ topic group, after.acknowledged topic group = broker.acknowledged topic group

namespace Broker

variable {broker after : Broker} {row : OutboxRow}

theorem Carries.mono (carries : broker.Carries row) (more : broker.messages ⊆ after.messages) :
    after.Carries row := by
  obtain ⟨message, present, same⟩ := carries
  exact ⟨message, more present, same⟩

theorem Carries.congr {other : OutboxRow} (carries : broker.Carries row)
    (same : row.asMade = other.asMade) : broker.Carries other := by
  obtain ⟨message, present, topic, payload⟩ := carries
  obtain ⟨-, -, sameTopic, samePayload⟩ := OutboxRow.asMade_announcement same
  exact ⟨message, present, topic.trans sameTopic, payload.trans samePayload⟩

theorem Sound.extends_self (sound : broker.Sound) : broker.Extends broker :=
  ⟨List.Subset.refl _, sound, fun _ _ => rfl⟩

theorem Sound.publish_extends (sound : broker.Sound) (topic key : String) (payload : Json) :
    (broker.publish topic key payload).2.Extends broker where
  messages := by
    obtain same | more := broker.publish_messages topic key payload
    · rw [same]
      exact List.Subset.refl _
    · rw [more]
      exact List.subset_append_left _ _
  sound := publish_sound sound topic key payload
  acknowledged := publish_acknowledged sound topic key payload

end Broker

theorem Handover.publish_extends {broker : Broker} (handover : Handover) (sound : broker.Sound)
    (row : OutboxRow) : (handover.publish broker row).2.Extends broker := by
  cases handover with
  | answered => exact sound.publish_extends _ _ _
  | lost => exact sound.extends_self
  | unanswered => exact sound.publish_extends _ _ _

/-- What the broker says it took, it has. -/
theorem Handover.publish_carries {broker : Broker} {handover : Handover} {row : OutboxRow}
    (done : (handover.publish broker row).1 = .ok ()) :
    (handover.publish broker row).2.Carries row := by
  cases handover with
  | answered => exact Broker.publish_ok done
  | lost => contradiction
  | unanswered => contradiction

namespace Delivery

variable {setup : DeliverySetup} {state : Delivery} {dispatcher : Nat} {copy : OutboxRow}
  {rest : List OutboxRow} {result : Except BrokerError Unit} {event : DeliveryEvent}

/-- What holds of the store, and is kept by changes of the rows and by the requests that the event
does, holds after the event. -/
theorem step_store_keeps (holds : Store → Prop)
    (unique : (state.store.outbox.map (·.id)).Nodup)
    (rows : ∀ change, OutboxRow.Relaying change → holds state.store →
      holds (state.store.withRows change))
    (requests : ∀ request store, Does setup event request → holds store →
      holds (request.apply store))
    (before : holds state.store) : holds (state.step setup event).store := by
  obtain changed | ⟨-, run, does, reached⟩ := step_store setup unique event
  · rw [changed]
    exact rows _ (state.change_relaying setup event) before
  · rw [reached]
    generalize state.store = store at before
    clear reached
    induction run generalizing store with
    | nil => exact before
    | cons request run ih =>
        have first := requests request store (does request List.mem_cons_self) before
        exact ih (fun other member => does other (List.mem_cons_of_mem _ member)) _ first

/-- What a dispatcher may go on to. -/
inductive Proceeds (state : Delivery) (event : DeliveryEvent) (after : Delivery)
    (dispatcher : Nat) : DispatchPhase → DispatchPhase → Prop where
  | stays {phase} : Proceeds state event after dispatcher phase phase
  | stops {phase} : Proceeds state event after dispatcher phase .idle
  | reclaims {now} : Proceeds state event after dispatcher .idle (.reclaimed now)
  | claims {now rows} (claim : event = .claim dispatcher)
      (before : state.phases dispatcher = .reclaimed now) :
      Proceeds state event after dispatcher (.reclaimed now) (.ofRows rows)
  | publishes {row rest} (handover : Handover) (publish : event = .publish dispatcher handover)
      (broker : after.broker = (handover.publish state.broker row).2) :
      Proceeds state event after dispatcher (.publishing row rest)
        (.reporting row (handover.publish state.broker row).1 rest)
  | reports {row result rest} :
      Proceeds state event after dispatcher (.reporting row result rest) (.ofRows rest)

theorem proceeds_withPhase {current : Delivery} {phase : DispatchPhase} {after : Delivery}
    {other : Nat} (same : current.phases = state.phases)
    (own : Proceeds state event after dispatcher (state.phases dispatcher) phase) :
    Proceeds state event after other (state.phases other)
      ((current.withPhase dispatcher phase).phases other) := by
  by_cases named : other = dispatcher
  · subst named
    rw [withPhase_self]
    exact own
  · rw [withPhase_other named, same]
    exact .stays

theorem step_proceeds (setup : DeliverySetup) (state : Delivery) (event : DeliveryEvent)
    (dispatcher : Nat) :
    Proceeds state event (state.step setup event) dispatcher (state.phases dispatcher)
      ((state.step setup event).phases dispatcher) := by
  cases event with
  | reclaim acting now =>
      cases phase : state.phases acting with
      | idle =>
          simp only [step, phase]
          exact proceeds_withPhase rfl (phase ▸ .reclaims)
      | _ =>
          simp only [step, phase]
          exact .stays
  | claim acting =>
      cases phase : state.phases acting with
      | reclaimed now =>
          simp only [step, phase]
          split
          · exact proceeds_withPhase rfl (phase ▸ .claims rfl phase)
          · exact proceeds_withPhase rfl .stops
      | _ =>
          simp only [step, phase]
          exact .stays
  | publish acting handover =>
      cases phase : state.phases acting with
      | publishing row rest =>
          simp only [step, phase]
          exact proceeds_withPhase rfl (phase ▸ .publishes handover rfl rfl)
      | _ =>
          simp only [step, phase]
          exact .stays
  | report acting now =>
      cases phase : state.phases acting with
      | reporting row result rest =>
          simp only [step, phase]
          split
          · exact proceeds_withPhase rfl (phase ▸ .reports)
          · exact proceeds_withPhase rfl .stops
      | _ =>
          simp only [step, phase]
          exact .stays
  | abandon acting => exact proceeds_withPhase rfl .stops
  | _ => exact .stays

/-- A dispatcher holds what it held before, or rows that it has claimed. -/
theorem step_held (unique : (state.store.outbox.map (·.id)).Nodup)
    (held : copy ∈ ((state.step setup event).phases dispatcher).held) :
    copy ∈ (state.phases dispatcher).held ∨
      ∃ row ∈ state.store.outbox, row.asMade = copy.asMade := by
  have proceeds := step_proceeds setup state event dispatcher
  generalize before : state.phases dispatcher = phase at *
  generalize next : (state.step setup event).phases dispatcher = after at *
  cases proceeds with
  | stays => exact .inl held
  | stops | reclaims => contradiction
  | claims claim =>
      subst claim
      rw [← next] at held
      obtain ⟨row, lookup, -, rfl⟩ := claimed_rows unique before copy held
      exact .inr ⟨row, (Store.outboxRow?_some lookup).1, rfl⟩
  | publishes => exact .inl held
  | reports =>
      rw [DispatchPhase.held_ofRows] at held
      exact .inl (List.mem_cons_of_mem _ held)

/-- A dispatcher that has to report has had to before, or has just handed the row to the broker. -/
theorem step_reporting
    (phase : (state.step setup event).phases dispatcher = .reporting copy result rest) :
    state.phases dispatcher = .reporting copy result rest ∨
      ∃ handover : Handover, (handover.publish state.broker copy).1 = result ∧
        (state.step setup event).broker = (handover.publish state.broker copy).2 := by
  have proceeds := step_proceeds setup state event dispatcher
  rw [phase] at proceeds
  generalize before : state.phases dispatcher = earlier at *
  have noRows : ∀ rows, DispatchPhase.ofRows rows ≠ .reporting copy result rest := by
    intro rows
    cases rows <;> nofun
  generalize next : DispatchPhase.reporting copy result rest = after at *
  cases proceeds with
  | stays => exact .inl rfl
  | stops | reclaims => contradiction
  | claims | reports => exact absurd rfl (noRows _)
  | publishes handover _ broker =>
      injection next with same results
      subst same results
      exact .inr ⟨handover, rfl, broker⟩

/-- All but the worker leave messages unacknowledged. -/
theorem step_extends (sound : state.broker.Sound)
    (others : ∀ talk stopAt now, event ≠ .poll talk stopAt now) :
    (state.step setup event).broker.Extends state.broker := by
  have self := sound.extends_self
  cases event with
  | reclaim dispatcher =>
      cases phase : state.phases dispatcher with
      | idle =>
          simp only [step, phase]
          exact self
      | _ => simpa only [step, phase] using self
  | claim dispatcher =>
      cases phase : state.phases dispatcher with
      | reclaimed now =>
          simp only [step, phase]
          split <;> exact self
      | _ => simpa only [step, phase] using self
  | publish dispatcher handover =>
      cases phase : state.phases dispatcher with
      | publishing row rest =>
          simp only [step, phase]
          exact handover.publish_extends sound row
      | _ => simpa only [step, phase] using self
  | report dispatcher now =>
      cases phase : state.phases dispatcher with
      | reporting copy result rest =>
          simp only [step, phase]
          split <;> exact self
      | _ => simpa only [step, phase] using self
  | arrive topic key payload => exact sound.publish_extends topic key payload
  | refuse failing => exact ⟨List.Subset.refl _, ⟨sound.numbered, sound.behind⟩, fun _ _ => rfl⟩
  | poll talk stopAt now => exact absurd rfl (others talk stopAt now)
  | abandon | requeue | settle | seed => exact self

/-- The broker has the messages it had before, and the group has acknowledged only such others as
announce no order, or one that is no longer new. -/
structure Acknowledges (setup : DeliverySetup) (before : Broker) (store : Store)
    (broker : Broker) : Prop where
  identified : store.Identified
  messages : broker.messages = before.messages
  sound : broker.Sound
  acknowledged : ∀ message ∈ broker.acknowledged setup.topic setup.group,
    message ∈ before.acknowledged setup.topic setup.group ∨
      ∀ orderId, Setup.announcedOrder? message.payload = some orderId → store.Submitted orderId

theorem poll_acknowledges (setup : DeliverySetup) (sound : state.broker.Sound)
    (identified : state.store.Identified) (talk : ExchangeTalk) (stopAt : Option Duration)
    (now : Instant) :
    Acknowledges setup state.broker (state.step setup (.poll talk stopAt now)).store
      (state.step setup (.poll talk stopAt now)).broker := by
  obtain ⟨received, messages, receives, acknowledged⟩ :=
    Broker.receive_spec sound setup.topic setup.group setup.batch setup.block
  refine Setup.submitBatch_induction (Acknowledges setup state.broker) ?_ ?_ ?_
  · refine ⟨identified, messages, receives, ?_⟩
    intro message member
    rw [← acknowledged]
    exact .inl member
  · intro store broker call before
    refine ⟨Store.afterAll_identified before.identified [.settle call setup.engine.terms now],
      before.messages, before.sound, ?_⟩
    intro message member
    refine (before.acknowledged message member).imp_right fun known orderId names => ?_
    exact (known orderId names).afterAll before.identified [.settle call setup.engine.terms now]
  · intro store broker delivered listed submitted before
    have same := Broker.acknowledge_messages broker setup.topic setup.group (toString delivered.id)
    refine ⟨before.identified, same.trans before.messages,
      Broker.acknowledge_sound before.sound _ _ _, ?_⟩
    intro message member
    obtain earlier | ⟨-, -, -, sameId, given⟩ := (Broker.mem_acknowledge _ _ _ _ _).mp member
    · exact before.acknowledged message earlier
    · -- Messages have identifiers of their own, so it is the one that was dealt with.
      have present : delivered ∈ broker.messagesOf setup.topic := by
        have listed := received delivered listed
        rwa [Broker.messagesOf, ← before.messages] at listed
      obtain rfl := List.inj_on_of_nodup_map (before.sound.unique setup.topic)
        (Broker.given_subset given) present sameId
      exact .inr submitted

end Delivery

end SpotSettlement
