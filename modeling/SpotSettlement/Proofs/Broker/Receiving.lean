import Mathlib.Data.List.Induction
import SpotSettlement.Proofs.Broker.Groups

namespace SpotSettlement

/-! # What groups receive

Consumers of many groups, on many topics, call the broker in any order, and publishers come in
between.  A group is given the messages of a topic in the order in which they were published, none is
left out, and each is given again until the group acknowledges it.  What a group receives depends on
nothing but its own calls and what is published on the topic.
-/

/-- A call to the broker.  A consumer that waits for messages takes them twice. -/
inductive BrokerCall where
  | publish (topic key : String) (payload : Json)
  | take (topic group : String) (limit : Nat)
  | acknowledge (topic group deliveryId : String)
  /-- The broker starts or stops refusing messages. -/
  | refuse (failing : Bool)

namespace BrokerCall

def apply (call : BrokerCall) (broker : Broker) : Broker :=
  match call with
  | .publish topic key payload => (broker.publish topic key payload).2
  | .take topic group limit => (broker.take topic group limit).2
  | .acknowledge topic group deliveryId => (broker.acknowledge topic group deliveryId).2
  | .refuse failing => { broker with failing }

def gives (call : BrokerCall) (broker : Broker) (topic group : String) : List Message :=
  match call with
  | .take other another limit =>
    if other = topic ∧ another = group then (broker.take topic group limit).1 else []
  | _ => []

/-- By the call the group acknowledges the message with the number. -/
def Acknowledges (call : BrokerCall) (topic group : String) (id : Nat) : Prop :=
  ∃ deliveryId, call = .acknowledge topic group deliveryId ∧
    Broker.deliveryNumber? deliveryId = some id

/-- The call publishes on the topic, or is one of the group on it. -/
def Concerns (call : BrokerCall) (topic group : String) : Prop :=
  match call with
  | .publish other _ _ => other = topic
  | .take other another _ | .acknowledge other another _ => other = topic ∧ another = group
  | .refuse _ => False

end BrokerCall

namespace Broker

variable {broker : Broker} {topic group : String} {message : Message} {limit : Nat}
  {calls : List BrokerCall} {call : BrokerCall}

def afterCalls (broker : Broker) (calls : List BrokerCall) : Broker :=
  calls.foldl (fun broker call => call.apply broker) broker

def reached (calls : List BrokerCall) : Broker := ({} : Broker).afterCalls calls

theorem reached_append (calls more : List BrokerCall) :
    reached (calls ++ more) = (reached calls).afterCalls more :=
  List.foldl_append

theorem reached_concat (calls : List BrokerCall) (call : BrokerCall) :
    reached (calls ++ [call]) = call.apply (reached calls) :=
  reached_append calls [call]

theorem apply_sound (sound : broker.Sound) (call : BrokerCall) : (call.apply broker).Sound := by
  cases call with
  | publish => exact publish_sound sound _ _ _
  | take => exact take_sound sound _ _ _
  | acknowledge => exact acknowledge_sound sound _ _ _
  | refuse => exact ⟨sound.numbered, sound.behind⟩

theorem reached_sound (calls : List BrokerCall) : (reached calls).Sound := by
  induction calls using List.reverseRecOn with
  | nil => exact empty_sound
  | append_singleton calls call ih =>
      rw [reached_concat]
      exact apply_sound ih call

/-- The messages of a topic that a group was never given. -/
def ahead (broker : Broker) (topic group : String) : List Message :=
  (broker.messagesOf topic).drop (broker.cursor topic group).next

def pendingOf (broker : Broker) (topic group : String) : List Message :=
  (broker.messagesOf topic).filter fun message =>
    (broker.cursor topic group).pending.contains message.id

theorem given_append_ahead (broker : Broker) (topic group : String) :
    broker.given topic group ++ broker.ahead topic group = broker.messagesOf topic :=
  List.take_append_drop _ _

theorem Sound.apart (sound : broker.Sound) {earlier later : Message}
    (given : earlier ∈ broker.given topic group) (notGiven : later ∈ broker.ahead topic group) :
    earlier.id ≠ later.id := by
  have unique := sound.unique topic
  rw [← given_append_ahead broker topic group, List.map_append] at unique
  exact (List.nodup_append.mp unique).2.2 _ (List.mem_map_of_mem given) _
    (List.mem_map_of_mem notGiven)

theorem Sound.eq_of_id (sound : broker.Sound) {other : Message}
    (member : message ∈ broker.messagesOf topic) (listed : other ∈ broker.messagesOf topic)
    (same : message.id = other.id) : message = other :=
  List.inj_on_of_nodup_map (sound.unique topic) member listed same

theorem take_pending (waits : (broker.cursor topic group).pending ≠ []) :
    broker.take topic group limit = ((broker.pendingOf topic group).take limit, broker) := by
  rw [take, if_neg (mt List.isEmpty_iff.mp waits)]
  rfl

theorem take_ahead (none : (broker.cursor topic group).pending = []) :
    broker.take topic group limit = ((broker.ahead topic group).take limit,
      broker.withCursor ⟨topic, group,
        (broker.cursor topic group).next + ((broker.ahead topic group).take limit).length,
        ((broker.ahead topic group).take limit).map (·.id)⟩) := by
  obtain ⟨topics, groups⟩ := broker.cursor_names topic group
  rw [take, if_pos (List.isEmpty_iff.mpr none)]
  simp only [topics, groups]
  rfl

theorem given_take (none : (broker.cursor topic group).pending = []) (limit : Nat) :
    (broker.take topic group limit).2.given topic group =
      broker.given topic group ++ (broker.ahead topic group).take limit := by
  rw [take_ahead none]
  exact given_withCursor rfl (List.take_append_drop limit _)

theorem pending_take (none : (broker.cursor topic group).pending = []) (limit : Nat) :
    ((broker.take topic group limit).2.cursor topic group).pending =
      ((broker.ahead topic group).take limit).map (·.id) := by
  rw [take_ahead none, cursor_withCursor_self ⟨rfl, rfl⟩]

theorem given_withCursor_same (broker : Broker) (topic group : String) (pending : List Nat) :
    (broker.withCursor ⟨topic, group, (broker.cursor topic group).next, pending⟩).given topic
      group = broker.given topic group := by
  rw [given, cursor_withCursor_self ⟨rfl, rfl⟩]
  rfl

theorem cursor_withCursor_other {moved : GroupCursor}
    (names : ¬(moved.topic = topic ∧ moved.group = group)) :
    (broker.withCursor moved).cursor topic group = broker.cursor topic group := by
  rw [cursor_withCursor, if_neg names]

theorem publish_given (sound : broker.Sound) (topic key : String) (payload : Json)
    (other group : String) :
    (broker.publish topic key payload).2.given other group = broker.given other group := by
  obtain ⟨added, longer⟩ := broker.publish_messagesOf topic key payload other
  rw [given, given, publish_cursor, ← longer,
    List.take_append_of_le_length (sound.behind other group)]

theorem messagesOf_congr {other : Broker} (same : other.messages = broker.messages)
    (topic : String) : other.messagesOf topic = broker.messagesOf topic :=
  congrArg (List.filter _) same

theorem ahead_take (none : (broker.cursor topic group).pending = []) (limit : Nat) :
    (broker.take topic group limit).2.ahead topic group =
      (broker.ahead topic group).drop limit := by
  have whole := given_append_ahead (broker.take topic group limit).2 topic group
  rw [messagesOf_congr (broker.take_messages topic group limit), given_take none,
    ← given_append_ahead broker topic group, List.append_assoc] at whole
  exact List.append_cancel_left
    ((List.append_cancel_left whole).trans (List.take_append_drop limit _).symm)

/-- A call about others changes neither the messages of the topic nor how far the group has come. -/
theorem apply_of_not_concerns (broker : Broker) (other : ¬call.Concerns topic group) :
    (call.apply broker).messagesOf topic = broker.messagesOf topic ∧
      (call.apply broker).cursor topic group = broker.cursor topic group := by
  cases call with
  | publish elsewhere key payload =>
      refine ⟨?_, publish_cursor ..⟩
      obtain same | more := broker.publish_messages elsewhere key payload
      · exact messagesOf_congr same topic
      · have different : (elsewhere == topic) = false := by simpa [BrokerCall.Concerns] using other
        rw [BrokerCall.apply, messagesOf, more, List.filter_append]
        simp [messagesOf, different]
  | take elsewhere another limit =>
      refine ⟨messagesOf_congr (broker.take_messages elsewhere another limit) topic, ?_⟩
      by_cases none : (broker.cursor elsewhere another).pending = []
      · rw [BrokerCall.apply, take_ahead none]
        exact cursor_withCursor_other other
      · rw [BrokerCall.apply, take_pending none]
  | acknowledge elsewhere another deliveryId =>
      refine ⟨messagesOf_congr (broker.acknowledge_messages elsewhere another deliveryId) topic, ?_⟩
      obtain ⟨same, -⟩ | ⟨_, -, -, moved⟩ := broker.acknowledge_cases elsewhere another deliveryId
      · rw [BrokerCall.apply, same]
      · rw [BrokerCall.apply, moved]
        exact cursor_withCursor_other other
  | refuse => exact ⟨rfl, rfl⟩

theorem afterCalls_of_not_concerns (broker : Broker) {others : List BrokerCall}
    (apart : ∀ call ∈ others, ¬call.Concerns topic group) :
    (broker.afterCalls others).messagesOf topic = broker.messagesOf topic ∧
      (broker.afterCalls others).cursor topic group = broker.cursor topic group := by
  induction others generalizing broker with
  | nil => exact ⟨rfl, rfl⟩
  | cons call rest ih =>
      obtain ⟨messages, cursor⟩ := apply_of_not_concerns broker (apart call List.mem_cons_self)
      obtain ⟨later, moved⟩ := ih (call.apply broker)
        fun other member => apart other (List.mem_cons_of_mem call member)
      exact ⟨later.trans messages, moved.trans cursor⟩

/-- What a group is given depends on the messages of the topic and on how far it has come. -/
theorem take_congr {other : Broker} (messages : other.messagesOf topic = broker.messagesOf topic)
    (cursors : other.cursor topic group = broker.cursor topic group) (limit : Nat) :
    (other.take topic group limit).1 = (broker.take topic group limit).1 := by
  by_cases none : (broker.cursor topic group).pending = []
  · rw [take_ahead none, take_ahead (cursors ▸ none), ahead, ahead, messages, cursors]
  · rw [take_pending none, take_pending (cursors ▸ none), pendingOf, pendingOf, messages, cursors]

/-- Somewhere in the run the group was given the message. -/
def WasGiven (calls : List BrokerCall) (topic group : String) (message : Message) : Prop :=
  ∃ before call after, calls = before ++ call :: after ∧
    message ∈ call.gives (reached before) topic group

/-- Somewhere in the run the group acknowledged the message, which it had been given before. -/
def WasAcknowledged (calls : List BrokerCall) (topic group : String) (message : Message) : Prop :=
  ∃ before call after, calls = before ++ call :: after ∧
    call.Acknowledges topic group message.id ∧ WasGiven before topic group message

theorem exists_split_concat (holds : List BrokerCall → BrokerCall → Prop) :
    (∃ before other after, calls ++ [call] = before ++ other :: after ∧ holds before other) ↔
      (∃ before other after, calls = before ++ other :: after ∧ holds before other) ∨
        holds calls call := by
  constructor
  · rintro ⟨before, other, after, split, held⟩
    rcases after.eq_nil_or_concat with rfl | ⟨after, last, rfl⟩
    · obtain ⟨rfl, same⟩ := List.append_inj' split rfl
      obtain rfl := List.singleton_inj.mp same
      exact .inr held
    · rw [List.concat_eq_append, ← List.cons_append, ← List.append_assoc] at split
      obtain ⟨rfl, -⟩ := List.append_inj' split rfl
      exact .inl ⟨before, other, after, rfl, held⟩
  · rintro (⟨before, other, after, rfl, held⟩ | held)
    · exact ⟨before, other, after ++ [call], by simp, held⟩
    · exact ⟨calls, call, [], rfl, held⟩

theorem wasGiven_concat : WasGiven (calls ++ [call]) topic group message ↔
    WasGiven calls topic group message ∨ message ∈ call.gives (reached calls) topic group :=
  exists_split_concat _

theorem wasAcknowledged_concat : WasAcknowledged (calls ++ [call]) topic group message ↔
    WasAcknowledged calls topic group message ∨
      call.Acknowledges topic group message.id ∧ WasGiven calls topic group message :=
  exists_split_concat fun before other =>
    other.Acknowledges topic group message.id ∧ WasGiven before topic group message

theorem WasAcknowledged.wasGiven (acknowledged : WasAcknowledged calls topic group message) :
    WasGiven calls topic group message := by
  obtain ⟨before, call, after, rfl, -, first, other, rest, rfl, given⟩ := acknowledged
  exact ⟨first, other, rest ++ call :: after, by simp, given⟩

theorem WasAcknowledged.append (acknowledged : WasAcknowledged calls topic group message)
    (later : List BrokerCall) : WasAcknowledged (calls ++ later) topic group message := by
  obtain ⟨before, call, after, rfl, rest⟩ := acknowledged
  exact ⟨before, call, after ++ later, by simp, rest⟩

/-- How far a group has come tells what it was given and what it acknowledged. -/
structure Tells (broker : Broker) (calls : List BrokerCall) (topic group : String) : Prop where
  given : ∀ message, message ∈ broker.given topic group ↔ WasGiven calls topic group message
  pending : ∀ message ∈ broker.given topic group,
    message.id ∈ (broker.cursor topic group).pending ↔ ¬WasAcknowledged calls topic group message
  owned : ∀ id ∈ (broker.cursor topic group).pending,
    ∃ message ∈ broker.given topic group, message.id = id

namespace Tells

variable (tells : broker.Tells calls topic group)

include tells

theorem mem_pendingOf (sound : broker.Sound) : message ∈ broker.pendingOf topic group ↔
    message ∈ broker.given topic group ∧ message.id ∈ (broker.cursor topic group).pending := by
  rw [pendingOf, List.mem_filter, List.contains_iff_mem]
  constructor
  · rintro ⟨listed, waits⟩
    obtain ⟨same, given, id⟩ := tells.owned _ waits
    exact ⟨sound.eq_of_id (given_subset given) listed id ▸ given, waits⟩
  · rintro ⟨given, waits⟩
    exact ⟨given_subset given, waits⟩

theorem pendingOf_eq_nil (sound : broker.Sound) :
    broker.pendingOf topic group = [] ↔ (broker.cursor topic group).pending = [] := by
  constructor
  · intro none
    refine List.eq_nil_iff_forall_not_mem.mpr fun id waits => ?_
    obtain ⟨message, given, rfl⟩ := tells.owned id waits
    exact List.eq_nil_iff_forall_not_mem.mp none message
      ((tells.mem_pendingOf sound).mpr ⟨given, waits⟩)
  · intro none
    rw [pendingOf, none]
    exact List.filter_eq_nil_iff.mpr (by simp)

theorem not_mem_take (sound : broker.Sound)
    (acknowledged : WasAcknowledged calls topic group message) (limit : Nat) :
    message ∉ (broker.take topic group limit).1 := by
  have given := (tells.given message).mpr acknowledged.wasGiven
  intro taken
  by_cases none : (broker.cursor topic group).pending = []
  · rw [take_ahead none] at taken
    exact sound.apart given (List.mem_of_mem_take taken) rfl
  · rw [take_pending none] at taken
    have waits := ((tells.mem_pendingOf sound).mp (List.mem_of_mem_take taken)).2
    exact (tells.pending message given).mp waits acknowledged

/-- A call that gives nothing and acknowledges nothing tells nothing new. -/
theorem idle {after : Broker} (sameGiven : after.given topic group = broker.given topic group)
    (sameCursor : after.cursor topic group = broker.cursor topic group)
    (gives : call.gives (reached calls) topic group = [])
    (silent : ∀ id, ¬call.Acknowledges topic group id) :
    after.Tells (calls ++ [call]) topic group where
  given message := by
    rw [sameGiven, wasGiven_concat, gives, tells.given]
    simp
  pending message given := by
    rw [sameGiven] at given
    rw [sameCursor, wasAcknowledged_concat, tells.pending message given]
    simp [silent]
  owned := by
    rw [sameGiven, sameCursor]
    exact tells.owned

theorem take (same : broker = reached calls) (sound : broker.Sound) (limit : Nat) :
    (broker.take topic group limit).2.Tells (calls ++ [.take topic group limit]) topic group := by
  have gives : (BrokerCall.take topic group limit).gives (reached calls) topic group =
      (broker.take topic group limit).1 := by
    rw [BrokerCall.gives, if_pos ⟨rfl, rfl⟩, same]
  have silent : ∀ id, ¬(BrokerCall.take topic group limit).Acknowledges topic group id :=
    fun id ⟨_, differs, _⟩ => BrokerCall.noConfusion differs
  by_cases none : (broker.cursor topic group).pending = []
  · have newGiven := given_take none limit
    have newPending := pending_take none limit
    rw [take_ahead none] at gives
    refine ⟨fun message => ?_, fun message member => ?_, fun id waits => ?_⟩
    · rw [newGiven, List.mem_append, tells.given, wasGiven_concat, gives]
    · rw [newPending, wasAcknowledged_concat]
      simp only [silent, false_and, or_false]
      rw [newGiven, List.mem_append] at member
      obtain old | new := member
      · -- Nothing was pending, so what was given before is acknowledged, and its number is not new.
        have settled := tells.pending message old
        rw [none] at settled
        refine iff_of_false (fun listed => ?_) (by simpa using settled)
        obtain ⟨later, new, id⟩ := List.mem_map.mp listed
        exact sound.apart old (List.mem_of_mem_take new) id.symm
      · refine iff_of_true (List.mem_map_of_mem new) fun acknowledged => ?_
        have early := (tells.given message).mpr acknowledged.wasGiven
        exact sound.apart early (List.mem_of_mem_take new) rfl
    · rw [newPending] at waits
      obtain ⟨message, new, rfl⟩ := List.mem_map.mp waits
      exact ⟨message, newGiven ▸ List.mem_append_right _ new, rfl⟩
  · rw [take_pending none] at gives ⊢
    dsimp only at gives ⊢
    refine ⟨fun message => ?_, fun message member => ?_, tells.owned⟩
    · rw [wasGiven_concat, gives, tells.given]
      refine ⟨.inl, fun given => given.elim id fun again => ?_⟩
      rw [← tells.given]
      exact ((tells.mem_pendingOf sound).mp (List.mem_of_mem_take again)).1
    · rw [tells.pending message member, wasAcknowledged_concat]
      simp [silent]

theorem acknowledge (deliveryId : String) : (broker.acknowledge topic group deliveryId).2.Tells
    (calls ++ [.acknowledge topic group deliveryId]) topic group := by
  have gives : (BrokerCall.acknowledge topic group deliveryId).gives (reached calls) topic group =
      [] := rfl
  have names : ∀ id, (BrokerCall.acknowledge topic group deliveryId).Acknowledges topic group id ↔
      deliveryNumber? deliveryId = some id := by
    intro id
    constructor
    · rintro ⟨_, ⟨⟩, named⟩
      exact named
    · exact fun named => ⟨deliveryId, rfl, named⟩
  obtain ⟨same, absent⟩ | ⟨id, named, waits, moved⟩ :=
    broker.acknowledge_cases topic group deliveryId
  · rw [same]
    refine ⟨fun message => ?_, fun message given => ?_, tells.owned⟩
    · rw [wasGiven_concat, gives, tells.given]
      simp
    · have settled := tells.pending message given
      rw [wasAcknowledged_concat, names, settled, not_or, iff_self_and]
      -- A message that is not pending was acknowledged before.
      rintro open_ ⟨again, -⟩
      exact absent _ again (settled.mpr open_)
  · have kept := broker.given_withCursor_same topic group
      ((broker.cursor topic group).pending.filter (· != id))
    rw [moved]
    refine ⟨fun message => ?_, fun message given => ?_, fun other waiting => ?_⟩
    · rw [kept, wasGiven_concat, gives, tells.given]
      simp
    · rw [kept] at given
      rw [cursor_withCursor_self ⟨rfl, rfl⟩, wasAcknowledged_concat, names, named,
        List.mem_filter, tells.pending message given, ← tells.given]
      simp only [given, and_true, not_or, bne_iff_ne, ne_eq, Option.some.injEq, @eq_comm Nat id]
    · rw [cursor_withCursor_self ⟨rfl, rfl⟩] at waiting
      rw [kept]
      exact tells.owned other (List.mem_of_mem_filter waiting)

end Tells

theorem reached_tells (calls : List BrokerCall) (topic group : String) :
    (reached calls).Tells calls topic group := by
  induction calls using List.reverseRecOn with
  | nil =>
      refine ⟨fun message => iff_of_false List.not_mem_nil ?_, nofun, nofun⟩
      rintro ⟨before, call, after, empty, -⟩
      exact absurd empty (by simp)
  | append_singleton calls call ih =>
      rw [reached_concat]
      by_cases concerns : call.Concerns topic group
      · cases call with
        | publish other key payload =>
            exact ih.idle (publish_given (reached_sound calls) other key payload topic group)
              (publish_cursor ..) rfl (fun id ⟨_, differs, _⟩ => BrokerCall.noConfusion differs)
        | take other another limit =>
            obtain ⟨rfl, rfl⟩ := concerns
            exact ih.take rfl (reached_sound calls) limit
        | acknowledge other another deliveryId =>
            obtain ⟨rfl, rfl⟩ := concerns
            exact ih.acknowledge deliveryId
        | refuse => exact concerns.elim
      · obtain ⟨messages, cursors⟩ := apply_of_not_concerns (reached calls) concerns
        refine ih.idle (by rw [given, given, messages, cursors]) cursors ?_ ?_
        · cases call with
          | take => exact if_neg concerns
          | _ => rfl
        · rintro id ⟨deliveryId, rfl, -⟩
          exact concerns ⟨rfl, rfl⟩

end Broker

/-- Where a message stands with a group. -/
inductive Standing where
  | ahead
  | pending
  | acknowledged
  deriving DecidableEq

/-- A message as a group sees it, without the number that the broker gives it. -/
structure QueueEntry where
  key : String
  payload : Json
  standing : Standing

namespace QueueEntry

def lease (entry : QueueEntry) : QueueEntry := { entry with standing := .pending }

def acknowledge (entry : QueueEntry) : QueueEntry :=
  if entry.standing = .pending then { entry with standing := .acknowledged } else entry

def contents (entry : QueueEntry) : String × Json := (entry.key, entry.payload)

end QueueEntry

/-- What a call means to a group: a message is named by its position in the topic. -/
inductive GroupCall where
  | publish (key : String) (payload : Json)
  | take (limit : Nat)
  | acknowledge (position : Nat)

namespace GroupCall

/-- The entries that the group is given next. -/
def offered (queue : List QueueEntry) : List QueueEntry :=
  if queue.any (·.standing = .pending) then queue.filter (·.standing = .pending)
  else queue.filter (·.standing = .ahead)

/-- The first entries ahead, at most so many, are handed out. -/
def leaseNext : Nat → List QueueEntry → List QueueEntry
  | 0, queue => queue
  | _ + 1, [] => []
  | limit + 1, entry :: rest =>
    if entry.standing = .ahead then entry.lease :: leaseNext limit rest
    else entry :: leaseNext (limit + 1) rest

def apply (call : GroupCall) (queue : List QueueEntry) : List QueueEntry :=
  match call with
  | .publish key payload => queue ++ [⟨key, payload, .ahead⟩]
  | .take limit => if queue.any (·.standing = .pending) then queue else leaseNext limit queue
  | .acknowledge position => queue.modify position QueueEntry.acknowledge

def queueAfter (calls : List GroupCall) : List QueueEntry :=
  calls.foldl (fun queue call => call.apply queue) []

theorem leaseNext_append {settled waiting : List QueueEntry}
    (past : ∀ entry ∈ settled, entry.standing ≠ .ahead)
    (open_ : ∀ entry ∈ waiting, entry.standing = .ahead) (limit : Nat) :
    leaseNext limit (settled ++ waiting) =
      settled ++ ((waiting.take limit).map (·.lease) ++ waiting.drop limit) := by
  induction settled with
  | nil =>
      induction waiting generalizing limit with
      | nil => cases limit <;> rfl
      | cons entry rest ih =>
          cases limit with
          | zero => rfl
          | succ limit =>
              have leased := ih (fun other member => open_ other (List.mem_cons_of_mem _ member))
                limit
              simp only [List.nil_append] at leased ⊢
              rw [leaseNext, if_pos (open_ entry List.mem_cons_self), leased]
              rfl
  | cons entry rest ih =>
      cases limit with
      | zero => simp [leaseNext]
      | succ limit =>
          rw [List.cons_append, leaseNext, if_neg (past entry List.mem_cons_self),
            ih fun other member => past other (List.mem_cons_of_mem _ member)]
          rfl

end GroupCall

namespace Broker

variable {broker : Broker} {topic group : String} {message : Message} {limit : Nat}
  {calls : List BrokerCall} {call : BrokerCall}

def standing (broker : Broker) (topic group : String) (message : Message) : Standing :=
  if message.id ∈ (broker.cursor topic group).pending then .pending
  else if message.id ∈ (broker.given topic group).map (·.id) then .acknowledged
  else .ahead

def entry (broker : Broker) (topic group : String) (message : Message) : QueueEntry :=
  ⟨message.key, message.payload, broker.standing topic group message⟩

/-- The messages of a topic as a group sees them. -/
def queue (broker : Broker) (topic group : String) : List QueueEntry :=
  (broker.messagesOf topic).map (broker.entry topic group)

end Broker

def BrokerCall.forGroup? (call : BrokerCall) (broker : Broker) (topic group : String) :
    Option GroupCall :=
  match call with
  | .publish other key payload =>
    if other = topic ∧ broker.failing = false then some (.publish key payload) else none
  | .take other another limit =>
    if other = topic ∧ another = group then some (.take limit) else none
  | .acknowledge other another deliveryId =>
    if other = topic ∧ another = group then do
      let id ← Broker.deliveryNumber? deliveryId
      let position ← (broker.messagesOf topic).findIdx? (·.id == id)
      return .acknowledge position
    else none
  | .refuse _ => none

namespace Broker

variable {broker : Broker} {topic group : String} {message : Message} {limit : Nat}
  {calls : List BrokerCall} {call : BrokerCall}

/-- What the calls of a run mean to a group on a topic. -/
def groupCalls (broker : Broker) (topic group : String) : List BrokerCall → List GroupCall
  | [] => []
  | call :: rest => (call.forGroup? broker topic group).toList ++
    (call.apply broker).groupCalls topic group rest

theorem groupCalls_append (broker : Broker) (topic group : String)
    (first second : List BrokerCall) : broker.groupCalls topic group (first ++ second) =
      broker.groupCalls topic group first ++
        (broker.afterCalls first).groupCalls topic group second := by
  induction first generalizing broker with
  | nil => rfl
  | cons call rest ih =>
      rw [List.cons_append, groupCalls, groupCalls, ih, List.append_assoc]
      rfl

theorem standing_eq_pending : broker.standing topic group message = .pending ↔
    message.id ∈ (broker.cursor topic group).pending := by
  unfold standing
  split
  · next waits => simp [waits]
  · next settled => split <;> simp [settled]

theorem filter_pending (broker : Broker) (topic group : String) :
    (broker.queue topic group).filter (·.standing = .pending) =
      (broker.pendingOf topic group).map (broker.entry topic group) := by
  rw [queue, List.filter_map, pendingOf]
  congr 1
  refine List.filter_congr fun message _ => ?_
  simp [entry, standing_eq_pending]

theorem queue_eq_append (broker : Broker) (topic group : String) :
    broker.queue topic group = (broker.given topic group).map (broker.entry topic group) ++
      (broker.ahead topic group).map (broker.entry topic group) := by
  rw [← List.map_append, given_append_ahead, queue]

theorem standing_given (given : message ∈ broker.given topic group) :
    broker.standing topic group message =
      if message.id ∈ (broker.cursor topic group).pending then .pending else .acknowledged := by
  rw [standing, if_pos (List.mem_map_of_mem given)]

theorem standing_given_ne_ahead (given : message ∈ broker.given topic group) :
    broker.standing topic group message ≠ .ahead := by
  rw [standing_given given]
  split <;> exact nofun

theorem standing_taken (none : (broker.cursor topic group).pending = [])
    (new : message ∈ (broker.ahead topic group).take limit) :
    (broker.take topic group limit).2.standing topic group message = .pending := by
  rw [standing_eq_pending, pending_take none]
  exact List.mem_map_of_mem new

theorem standing_before_taken (sound : broker.Sound)
    (none : (broker.cursor topic group).pending = []) (limit : Nat)
    (given : message ∈ broker.given topic group) :
    (broker.take topic group limit).2.standing topic group message =
      broker.standing topic group message := by
  have settled :
      message.id ∉ ((broker.take topic group limit).2.cursor topic group).pending := by
    rw [pending_take none]
    intro listed
    obtain ⟨later, new, id⟩ := List.mem_map.mp listed
    exact sound.apart given (List.mem_of_mem_take new) id.symm
  rw [standing_given given, none, standing_given (given_take none limit ▸
    List.mem_append_left _ given), if_neg settled, if_neg List.not_mem_nil]

namespace Tells

variable (tells : broker.Tells calls topic group) (sound : broker.Sound)

include tells sound

theorem standing_ahead (notGiven : message ∈ broker.ahead topic group) :
    broker.standing topic group message = .ahead := by
  have fresh : message.id ∉ (broker.given topic group).map (·.id) := by
    intro listed
    obtain ⟨other, given, same⟩ := List.mem_map.mp listed
    exact sound.apart given notGiven same
  have settled : message.id ∉ (broker.cursor topic group).pending := by
    intro waits
    obtain ⟨other, given, same⟩ := tells.owned _ waits
    exact fresh (same ▸ List.mem_map_of_mem given)
  rw [standing, if_neg settled, if_neg fresh]

theorem any_pending : (broker.queue topic group).any (·.standing = .pending) = true ↔
    (broker.cursor topic group).pending ≠ [] := by
  rw [← not_iff_not, Bool.not_eq_true, List.any_eq_false, ← List.filter_eq_nil_iff, filter_pending,
    List.map_eq_nil_iff, tells.pendingOf_eq_nil sound, not_not]

theorem quiet (none : (broker.cursor topic group).pending = []) :
    ¬(broker.queue topic group).any (·.standing = .pending) = true := by
  rw [tells.any_pending sound]
  exact not_not_intro none

/-- What a group takes is what its queue offers. -/
theorem take_offered (limit : Nat) : (broker.take topic group limit).1.map
      (fun message => (message.key, message.payload)) =
    ((GroupCall.offered (broker.queue topic group)).take limit).map (·.contents) := by
  by_cases none : (broker.cursor topic group).pending = []
  · have passed : ((broker.given topic group).map (broker.entry topic group)).filter
        (·.standing = .ahead) = [] := by
      refine List.filter_eq_nil_iff.mpr fun entry member => ?_
      obtain ⟨message, given, rfl⟩ := List.mem_map.mp member
      simp [entry, standing_given_ne_ahead given]
    have next : ((broker.ahead topic group).map (broker.entry topic group)).filter
        (·.standing = .ahead) = (broker.ahead topic group).map (broker.entry topic group) := by
      refine List.filter_eq_self.mpr fun entry member => ?_
      obtain ⟨message, notGiven, rfl⟩ := List.mem_map.mp member
      simp [entry, tells.standing_ahead sound notGiven]
    rw [take_ahead none, GroupCall.offered, if_neg (tells.quiet sound none), queue_eq_append,
      List.filter_append, passed, next, List.nil_append, ← List.map_take, List.map_map]
    rfl
  · rw [take_pending none, GroupCall.offered, if_pos ((tells.any_pending sound).mpr none),
      filter_pending, ← List.map_take, List.map_map]
    rfl

theorem publish_queue (working : broker.failing = false) (key : String) (payload : Json) :
    (broker.publish topic key payload).2.queue topic group =
      broker.queue topic group ++ [⟨key, payload, .ahead⟩] := by
  have told : (broker.publish topic key payload).2.Tells (calls ++ [.publish topic key payload])
      topic group :=
    tells.idle (publish_given sound ..) (publish_cursor ..) rfl
      fun id ⟨_, differs, _⟩ => BrokerCall.noConfusion differs
  have entries : (broker.publish topic key payload).2.entry topic group =
      broker.entry topic group := by
    funext message
    rw [entry, entry, standing, standing, publish_given sound, publish_cursor]
  have more : (broker.publish topic key payload).2.messagesOf topic =
      broker.messagesOf topic ++ [⟨broker.messages.length + 1, topic, key, payload⟩] := by
    simp [publish, working, messagesOf]
  have last : (⟨broker.messages.length + 1, topic, key, payload⟩ : Message) ∈
      (broker.publish topic key payload).2.ahead topic group := by
    rw [ahead, more, publish_cursor, List.drop_append_of_le_length (sound.behind topic group)]
    exact List.mem_append_right _ List.mem_cons_self
  have standing := told.standing_ahead (publish_sound sound topic key payload) last
  rw [queue, more, List.map_append, List.map_singleton, entry, standing, entries, queue]

theorem take_queue (same : broker = reached calls) (limit : Nat) :
    (broker.take topic group limit).2.queue topic group =
      (GroupCall.take limit).apply (broker.queue topic group) := by
  by_cases none : (broker.cursor topic group).pending = []
  · have settled : ∀ entry ∈ (broker.given topic group).map (broker.entry topic group),
        entry.standing ≠ .ahead := by
      intro entry member
      obtain ⟨message, given, rfl⟩ := List.mem_map.mp member
      exact standing_given_ne_ahead given
    have open_ : ∀ entry ∈ (broker.ahead topic group).map (broker.entry topic group),
        entry.standing = .ahead := by
      intro entry member
      obtain ⟨message, notGiven, rfl⟩ := List.mem_map.mp member
      exact tells.standing_ahead sound notGiven
    have later : ∀ message ∈ (broker.ahead topic group).drop limit,
        (broker.take topic group limit).2.standing topic group message =
          broker.standing topic group message := by
      intro message member
      rw [(tells.take same sound limit).standing_ahead (take_sound sound topic group limit)
          (ahead_take none limit ▸ member),
        tells.standing_ahead sound (List.mem_of_mem_drop member)]
    rw [GroupCall.apply, if_neg (tells.quiet sound none), queue_eq_append broker,
      GroupCall.leaseNext_append settled open_, queue_eq_append, given_take none, ahead_take none,
      List.map_append, List.append_assoc, ← List.map_take, ← List.map_drop, List.map_map]
    congr 1
    · refine List.map_congr_left fun message member => ?_
      rw [entry, entry, standing_before_taken sound none limit member]
    congr 1
    · refine List.map_congr_left fun message member => ?_
      rw [entry, standing_taken none member]
      rfl
    · refine List.map_congr_left fun message member => ?_
      rw [entry, entry, later message member]
  · rw [take_pending none, GroupCall.apply, if_pos ((tells.any_pending sound).mpr none)]

omit sound in
theorem acknowledge_queue {deliveryId : String} {id : Nat}
    (named : deliveryNumber? deliveryId = some id) :
    (broker.acknowledge topic group deliveryId).2.queue topic group =
      (broker.messagesOf topic).map fun message =>
        if message.id = id then (broker.entry topic group message).acknowledge
        else broker.entry topic group message := by
  have messages := messagesOf_congr (broker.acknowledge_messages topic group deliveryId) topic
  rw [queue, messages]
  refine List.map_congr_left fun message _ => ?_
  obtain ⟨same, absent⟩ | ⟨other, again, waits, moved⟩ :=
    broker.acknowledge_cases topic group deliveryId
  · rw [same]
    split
    · next here =>
        have settled : broker.standing topic group message ≠ .pending := by
          rw [ne_eq, standing_eq_pending, here]
          exact absent id named
        exact (if_neg settled).symm
    · rfl
  · obtain rfl := Option.some.inj (named.symm.trans again)
    have given := broker.given_withCursor_same topic group
      ((broker.cursor topic group).pending.filter (· != id))
    obtain ⟨owner, ownerGiven, ownerId⟩ := tells.owned id waits
    rw [moved, entry, standing, given, cursor_withCursor_self ⟨rfl, rfl⟩]
    by_cases here : message.id = id
    · have waiting : broker.standing topic group message = .pending :=
        standing_eq_pending.mpr (here ▸ waits)
      have known : message.id ∈ (broker.given topic group).map (·.id) :=
        here ▸ ownerId ▸ List.mem_map_of_mem ownerGiven
      rw [if_pos here, if_neg (by simp [here]), if_pos known, entry, QueueEntry.acknowledge,
        if_pos waiting]
    · have remains : message.id ∈ (broker.cursor topic group).pending.filter (· != id) ↔
          message.id ∈ (broker.cursor topic group).pending := by
        rw [List.mem_filter, and_iff_left (bne_iff_ne.mpr here)]
      simp only [if_neg here, remains, entry, standing]

end Tells

/-- Changing the one row with a key is changing the row at its position. -/
theorem map_if_eq_modify {change : QueueEntry → QueueEntry} {entryOf : Message → QueueEntry}
    {messages : List Message} (unique : (messages.map (·.id)).Nodup) {id position : Nat}
    (found : messages.findIdx? (·.id == id) = some position) :
    (messages.map fun message => if message.id = id then change (entryOf message)
      else entryOf message) = (messages.map entryOf).modify position change := by
  obtain ⟨inside, here, -⟩ := List.findIdx?_eq_some_iff_getElem.mp found
  refine List.ext_getElem? fun index => ?_
  rw [List.getElem?_modify, List.getElem?_map, List.getElem?_map]
  cases listed : messages[index]? with
  | none => rfl
  | some message =>
      obtain ⟨bound, same⟩ := List.getElem?_eq_some_iff.mp listed
      have mapped := @List.Nodup.getElem_inj_iff _ _ unique index (by simpa using bound) position
        (by simpa using inside)
      rw [List.getElem_map, List.getElem_map, same, beq_iff_eq.mp here,
        eq_comm (a := index)] at mapped
      simp only [Option.map_some, Option.map_eq_map, mapped]

theorem acknowledge_position {id position : Nat} (sound : broker.Sound)
    (found : (broker.messagesOf topic).findIdx? (·.id == id) = some position) :
    ((broker.messagesOf topic).map fun message =>
        if message.id = id then (broker.entry topic group message).acknowledge
        else broker.entry topic group message) =
      (GroupCall.acknowledge position).apply (broker.queue topic group) :=
  map_if_eq_modify (sound.unique topic) found

/-- What a call does to the queue of a group is what it means to the group. -/
theorem apply_queue (calls : List BrokerCall) (call : BrokerCall) (topic group : String) :
    (call.apply (reached calls)).queue topic group =
      (call.forGroup? (reached calls) topic group).toList.foldl (fun queue call => call.apply queue)
        ((reached calls).queue topic group) := by
  have tells := reached_tells calls topic group
  have sound := reached_sound calls
  by_cases concerns : call.Concerns topic group
  · cases call with
    | publish other key payload =>
        obtain rfl : other = topic := concerns
        cases working : (reached calls).failing with
        | false =>
            rw [BrokerCall.forGroup?, if_pos ⟨rfl, working⟩]
            exact tells.publish_queue sound working key payload
        | true => simp [BrokerCall.forGroup?, BrokerCall.apply, publish, working]
    | take other another limit =>
        obtain ⟨rfl, rfl⟩ := concerns
        rw [BrokerCall.forGroup?, if_pos ⟨rfl, rfl⟩]
        exact tells.take_queue sound rfl limit
    | acknowledge other another deliveryId =>
        obtain ⟨rfl, rfl⟩ := concerns
        rw [BrokerCall.forGroup?, if_pos ⟨rfl, rfl⟩]
        cases named : deliveryNumber? deliveryId with
        | none => simp [BrokerCall.apply, acknowledge, named]
        | some id =>
            refine (tells.acknowledge_queue named).trans ?_
            simp only [Option.bind_eq_bind, Option.bind_some]
            cases found : ((reached calls).messagesOf other).findIdx? (·.id == id) with
            | none =>
                have absent := List.findIdx?_eq_none_iff.mp found
                refine List.map_congr_left fun message member => if_neg ?_
                simpa using absent message member
            | some position => exact acknowledge_position sound found
    | refuse => exact concerns.elim
  · obtain ⟨messages, cursors⟩ := apply_of_not_concerns (reached calls) concerns
    have means : call.forGroup? (reached calls) topic group = none := by
      cases call with
      | publish => exact if_neg fun both => concerns both.1
      | take => exact if_neg concerns
      | acknowledge => exact if_neg concerns
      | refuse => rfl
    have entries : (call.apply (reached calls)).entry topic group =
        (reached calls).entry topic group := by
      funext message
      rw [entry, entry, standing, standing, given, given, messages, cursors]
    rw [means, queue, queue, messages, entries]
    rfl

/-- The queue of a group is what its calls make of it. -/
theorem reached_queue (calls : List BrokerCall) (topic group : String) :
    (reached calls).queue topic group =
      GroupCall.queueAfter (({} : Broker).groupCalls topic group calls) := by
  induction calls using List.reverseRecOn with
  | nil => rfl
  | append_singleton calls call ih =>
      rw [reached_concat, apply_queue, ih, groupCalls_append, GroupCall.queueAfter,
        GroupCall.queueAfter, List.foldl_append]
      simp only [groupCalls, List.append_nil]
      rfl

def Arrival.publication (arrival : Arrival) : BrokerCall :=
  .publish arrival.topic arrival.key arrival.payload

/-- A receive takes at once, or again after a wait if the first time there was nothing.  What arrives
comes before the last time or after it. -/
theorem receive_takes (broker : Broker) (topic group : String) (limit : Nat) (block : Duration)
    (arrival : Option Arrival) : ∃ first between after : List BrokerCall,
      (first = [] ∧ between = [] ∨
        first = [.take topic group limit] ∧ (broker.take topic group limit).1 = []) ∧
      between ++ after = (arrival.map Arrival.publication).toList ∧
      (broker.receive topic group limit block arrival).1 =
        ((broker.afterCalls (first ++ between)).take topic group limit).1 ∧
      (broker.receive topic group limit block arrival).2.2 =
        broker.afterCalls (first ++ between ++ .take topic group limit :: after) := by
  simp only [receive]
  split
  · refine ⟨[], [], (arrival.map Arrival.publication).toList, .inl ⟨rfl, rfl⟩, rfl, rfl, ?_⟩
    cases arrival <;> rfl
  · next waits =>
      have nothing : (broker.take topic group limit).1 = [] := by simp_all
      cases arrival with
      | none => exact ⟨[.take topic group limit], [], [], .inr ⟨rfl, nothing⟩, rfl, rfl, rfl⟩
      | some arrival =>
          dsimp only
          split
          · exact ⟨[.take topic group limit], [arrival.publication], [], .inr ⟨rfl, nothing⟩, rfl,
              rfl, rfl⟩
          · exact ⟨[.take topic group limit], [], [arrival.publication], .inr ⟨rfl, nothing⟩, rfl,
              rfl, rfl⟩

end Broker

/-! A topic is read by two groups.  One of them acknowledges its first message, another message is
published elsewhere, and the first message is acknowledged to the other group, which was not given
it. -/

namespace Sample

def read : List BrokerCall :=
  [.publish "orders" "o-1" (.string "first"), .take "orders" "g-1" 1, .publish "other" "k" .null,
    .publish "orders" "o-2" (.string "second"), .acknowledge "orders" "g-2" "1",
    .acknowledge "orders" "g-1" "1"]

end Sample

namespace Broker

/-- The messages of a topic are those that a group was given, followed by those that it never was.
What it was given is pending until the group acknowledges it, and is not given again after that.  It
takes what is pending, or if nothing is then what comes next, in the order of publishing.  To
acknowledge what is not pending changes nothing, and what the group receives is decided by the calls
that concern it: calls about others change nothing about it. -/
theorem groups_miss_nothing (calls : List BrokerCall) (topic group : String) :
    (∃ given ahead, (reached calls).messagesOf topic = given ++ ahead ∧
      (∀ message, WasGiven calls topic group message ↔ message ∈ given) ∧
      (∀ message ∈ ahead, ¬WasGiven calls topic group message) ∧
      (∀ message ∈ given, message ∈ (reached calls).pendingOf topic group ↔
        ¬WasAcknowledged calls topic group message) ∧
      ∀ limit, ((reached calls).take topic group limit).1 =
        if ((reached calls).pendingOf topic group).isEmpty then ahead.take limit
        else ((reached calls).pendingOf topic group).take limit) ∧
    (∀ message, WasAcknowledged calls topic group message → ∀ later limit,
      message ∉ ((reached (calls ++ later)).take topic group limit).1) ∧
    (∀ deliveryId, (∀ message ∈ (reached calls).pendingOf topic group,
        deliveryNumber? deliveryId ≠ some message.id) → ∀ later,
      reached (calls ++ .acknowledge topic group deliveryId :: later) = reached (calls ++ later)) ∧
    (∀ others, (∀ call ∈ others, ¬call.Concerns topic group) → ∀ limit,
      ((reached (calls ++ others)).take topic group limit).1 =
        ((reached calls).take topic group limit).1) ∧
    (∀ limit block arrival, ∃ first between after,
      (first = [] ∧ between = [] ∨ first = [.take topic group limit] ∧
        ((reached calls).take topic group limit).1 = []) ∧
      between ++ after = (arrival.map Arrival.publication).toList ∧
      ((reached calls).receive topic group limit block arrival).1 =
        ((reached (calls ++ (first ++ between))).take topic group limit).1 ∧
      ((reached calls).receive topic group limit block arrival).2.2 =
        reached (calls ++ (first ++ between ++ .take topic group limit :: after))) ∧
    ∀ others, ({} : Broker).groupCalls topic group others =
        ({} : Broker).groupCalls topic group calls → ∀ limit,
      ((reached others).take topic group limit).1.map
          (fun message => (message.key, message.payload)) =
        ((reached calls).take topic group limit).1.map
          fun message => (message.key, message.payload) := by
  have sound := reached_sound calls
  have tells := reached_tells calls topic group
  refine ⟨⟨_, _, (given_append_ahead _ topic group).symm, fun message => (tells.given message).symm,
    ?_, ?_, ?_⟩, ?_, ?_, ?_, ?_, ?_⟩
  · intro message notGiven given
    exact sound.apart ((tells.given message).mpr given) notGiven rfl
  · intro message given
    rw [tells.mem_pendingOf sound, and_iff_right given, tells.pending message given]
  · intro limit
    split
    · next none => rw [take_ahead ((tells.pendingOf_eq_nil sound).mp (List.isEmpty_iff.mp none))]
    · next waits =>
        rw [take_pending (mt (tells.pendingOf_eq_nil sound).mpr (mt List.isEmpty_iff.mpr waits))]
  · intro message acknowledged later limit
    exact (reached_tells (calls ++ later) topic group).not_mem_take (reached_sound _)
      (acknowledged.append later) limit
  · intro deliveryId absent later
    have same : ((reached calls).acknowledge topic group deliveryId).2 = reached calls := by
      obtain ⟨same, -⟩ | ⟨id, named, waits, -⟩ :=
        (reached calls).acknowledge_cases topic group deliveryId
      · exact same
      · obtain ⟨message, given, rfl⟩ := tells.owned id waits
        exact absurd named (absent message ((tells.mem_pendingOf sound).mpr ⟨given, waits⟩))
    rw [reached_append, reached_append]
    exact congrArg (afterCalls · later) same
  · intro others apart limit
    obtain ⟨messages, cursors⟩ := afterCalls_of_not_concerns (reached calls) apart
    rw [reached_append]
    exact take_congr messages cursors limit
  · intro limit block arrival
    simp only [reached_append]
    exact receive_takes (reached calls) topic group limit block arrival
  · intro others same limit
    rw [(reached_tells others topic group).take_offered (reached_sound others),
      tells.take_offered sound, reached_queue, reached_queue, same]

/-- The first group goes on with the message after the one that it acknowledged; the other group
begins at the start. -/
theorem sample_group_misses_nothing :
    ((reached Sample.read).take "orders" "g-1" 10).1.map (·.id) = [3] ∧
    ((reached Sample.read).take "orders" "g-2" 10).1.map (·.id) = [1, 3] ∧
    WasAcknowledged Sample.read "orders" "g-1" ⟨1, "orders", "o-1", .string "first"⟩ ∧
    (∀ later limit, ⟨1, "orders", "o-1", .string "first"⟩ ∉
      ((reached (Sample.read ++ later)).take "orders" "g-1" limit).1) ∧
    deliveryNumber? "1" = some 1 ∧
    ∀ later, reached (Sample.read ++ .acknowledge "orders" "g-2" "1" :: later) =
      reached (Sample.read ++ later) := by
  have one : deliveryNumber? "1" = some 1 := by decide +kernel
  have acknowledged : WasAcknowledged Sample.read "orders" "g-1"
      ⟨1, "orders", "o-1", .string "first"⟩ :=
    ⟨Sample.read.take 5, .acknowledge "orders" "g-1" "1", [], rfl, ⟨"1", rfl, one⟩,
      Sample.read.take 1, .take "orders" "g-1" 1, (Sample.read.take 5).drop 2, rfl,
      List.mem_singleton.mpr rfl⟩
  have none : (reached Sample.read).pendingOf "orders" "g-2" = [] := rfl
  have holds := groups_miss_nothing Sample.read "orders" "g-1"
  have others := groups_miss_nothing Sample.read "orders" "g-2"
  exact ⟨by decide +kernel, by decide +kernel, acknowledged,
    fun later limit => holds.2.1 _ acknowledged later limit, one,
    others.2.2.1 "1" (by rw [none]; exact nofun)⟩

end Broker

end SpotSettlement
