import Mathlib.Data.List.Nodup
import SpotSettlement.Broker.Basic
import SpotSettlement.Proofs.Text.Digits

namespace SpotSettlement.Broker

/-! # What a group has acknowledged

A group has acknowledged the messages of a topic that it was given and that are not pending.
Publishing and receiving messages change nothing about that; only acknowledging a message does.
-/

variable {broker : Broker} {topic group key : String} {payload : Json} {message : Message}
  {limit id : Nat}

/-- The messages of a topic that a group was given. -/
def given (broker : Broker) (topic group : String) : List Message :=
  (broker.messagesOf topic).take (broker.cursor topic group).next

def acknowledged (broker : Broker) (topic group : String) : List Message :=
  (broker.given topic group).filter fun message =>
    !(broker.cursor topic group).pending.contains message.id

/-- Messages are numbered from one on, and no group was given more of a topic than it has. -/
structure Sound (broker : Broker) : Prop where
  numbered : broker.messages.map (·.id) = List.range' 1 broker.messages.length
  behind : ∀ topic group, (broker.cursor topic group).next ≤ (broker.messagesOf topic).length

theorem mem_messagesOf : message ∈ broker.messagesOf topic ↔
    message ∈ broker.messages ∧ message.topic = topic := by
  simp [messagesOf]

theorem mem_acknowledged : message ∈ broker.acknowledged topic group ↔
    message ∈ broker.given topic group ∧ message.id ∉ (broker.cursor topic group).pending := by
  simp [acknowledged]

theorem given_subset : broker.given topic group ⊆ broker.messagesOf topic :=
  List.take_subset _ _

theorem Sound.unique (sound : broker.Sound) (topic : String) :
    ((broker.messagesOf topic).map (·.id)).Nodup := by
  have all : (broker.messages.map (·.id)).Nodup := sound.numbered ▸ List.nodup_range' 1 Nat.one_pos
  exact all.sublist (List.filter_sublist.map _)

/-- A broker without messages. -/
theorem empty_sound : ({} : Broker).Sound := ⟨rfl, fun _ _ => Nat.zero_le 0⟩

theorem empty_acknowledged (topic group : String) :
    ({} : Broker).acknowledged topic group = [] := rfl

def withCursor (broker : Broker) (moved : GroupCursor) : Broker :=
  { broker with groups := putCursor moved broker.groups }

theorem cursor_names (broker : Broker) (topic group : String) :
    (broker.cursor topic group).topic = topic ∧ (broker.cursor topic group).group = group := by
  unfold cursor
  cases found : broker.groups.find? fun cursor =>
      cursor.topic == topic && cursor.group == group with
  | none => exact ⟨rfl, rfl⟩
  | some cursor =>
      have named := List.find?_some found
      simpa using named

theorem find?_putCursor (moved : GroupCursor) (cursors : List GroupCursor) (topic group : String) :
    (putCursor moved cursors).find? (fun cursor => cursor.topic == topic && cursor.group == group) =
      if moved.topic = topic ∧ moved.group = group then some moved
      else cursors.find? fun cursor => cursor.topic == topic && cursor.group == group := by
  induction cursors with
  | nil => by_cases named : moved.topic = topic ∧ moved.group = group <;> simp [putCursor, named]
  | cons other rest ih =>
      by_cases same : other.topic = moved.topic ∧ other.group = moved.group
      · obtain ⟨sameTopic, sameGroup⟩ := same
        by_cases named : moved.topic = topic ∧ moved.group = group <;>
          simp [putCursor, sameTopic, sameGroup, named]
      · have moving : (other.topic == moved.topic && other.group == moved.group) = false := by
          simpa using same
        rw [putCursor, if_neg (by simp [moving])]
        by_cases found : other.topic = topic ∧ other.group = group
        · obtain ⟨rfl, rfl⟩ := found
          have different : ¬(moved.topic = other.topic ∧ moved.group = other.group) :=
            fun ⟨topics, groups⟩ => same ⟨topics.symm, groups.symm⟩
          simp [different]
        · have passed : (other.topic == topic && other.group == group) = false := by
            simpa using found
          rw [List.find?_cons_of_neg (by simp [passed]),
            List.find?_cons_of_neg (by simp [passed]), ih]

theorem cursor_withCursor (moved : GroupCursor) (topic group : String) :
    (broker.withCursor moved).cursor topic group =
      if moved.topic = topic ∧ moved.group = group then moved else broker.cursor topic group := by
  rw [cursor, withCursor, find?_putCursor]
  split <;> rfl

theorem cursor_withCursor_self {moved : GroupCursor}
    (names : moved.topic = topic ∧ moved.group = group) :
    (broker.withCursor moved).cursor topic group = moved := by
  rw [cursor_withCursor, if_pos names]

theorem acknowledged_withCursor_other {moved : GroupCursor}
    (names : ¬(moved.topic = topic ∧ moved.group = group)) :
    (broker.withCursor moved).acknowledged topic group = broker.acknowledged topic group := by
  rw [acknowledged, given, cursor_withCursor, if_neg names]
  rfl

theorem publish_cursor (broker : Broker) (topic key : String) (payload : Json)
    (other group : String) :
    (broker.publish topic key payload).2.cursor other group = broker.cursor other group := by
  unfold publish
  split <;> rfl

/-- Publishing adds at most one message, after the others. -/
theorem publish_messages (broker : Broker) (topic key : String) (payload : Json) :
    (broker.publish topic key payload).2.messages = broker.messages ∨
      (broker.publish topic key payload).2.messages =
        broker.messages ++ [⟨broker.messages.length + 1, topic, key, payload⟩] := by
  unfold publish
  split
  · exact .inl rfl
  · exact .inr rfl

theorem publish_ok (done : (broker.publish topic key payload).1 = .ok ()) :
    ∃ message ∈ (broker.publish topic key payload).2.messages,
      message.topic = topic ∧ message.payload = payload := by
  unfold publish at *
  split at done
  · contradiction
  · next working =>
      rw [if_neg working]
      exact ⟨_, List.mem_append_right _ List.mem_cons_self, rfl, rfl⟩

/-- The messages that there were stay at the front of their topic. -/
theorem publish_messagesOf (broker : Broker) (topic key : String) (payload : Json)
    (other : String) : broker.messagesOf other <+:
      (broker.publish topic key payload).2.messagesOf other := by
  obtain same | more := broker.publish_messages topic key payload
  · have kept : (broker.publish topic key payload).2.messagesOf other = broker.messagesOf other :=
      congrArg (List.filter _) same
    exact kept ▸ List.prefix_refl _
  · rw [messagesOf, messagesOf, more, List.filter_append]
    exact List.prefix_append _ _

theorem publish_acknowledged (sound : broker.Sound) (topic key : String) (payload : Json)
    (other group : String) :
    (broker.publish topic key payload).2.acknowledged other group =
      broker.acknowledged other group := by
  obtain ⟨added, longer⟩ := broker.publish_messagesOf topic key payload other
  rw [acknowledged, given, publish_cursor, ← longer,
    List.take_append_of_le_length (sound.behind other group)]
  rfl

theorem publish_sound (sound : broker.Sound) (topic key : String) (payload : Json) :
    (broker.publish topic key payload).2.Sound where
  numbered := by
    obtain same | more := broker.publish_messages topic key payload
    · rw [same]
      exact sound.numbered
    · rw [more, List.map_append, sound.numbered, List.length_append, ← List.range'_append_1,
        Nat.add_comm 1]
      rfl
  behind other group := by
    rw [publish_cursor]
    exact Nat.le_trans (sound.behind other group)
      (broker.publish_messagesOf topic key payload other).length_le

/-- What a group takes are messages of the topic, and nothing but its cursor moves. -/
theorem take_cases (broker : Broker) (topic group : String) (limit : Nat) :
    (∀ message ∈ (broker.take topic group limit).1, message ∈ broker.messagesOf topic) ∧
      ((broker.take topic group limit).2 = broker ∨
        (broker.cursor topic group).pending = [] ∧
        ∃ fresh, fresh <+: (broker.messagesOf topic).drop (broker.cursor topic group).next ∧
          (broker.take topic group limit).2 = broker.withCursor
            ⟨topic, group, (broker.cursor topic group).next + fresh.length, fresh.map (·.id)⟩) := by
  obtain ⟨topics, groups⟩ := broker.cursor_names topic group
  unfold take
  dsimp only
  split
  · next none =>
      refine ⟨fun message member => List.drop_subset _ _ (List.take_subset _ _ member), .inr ?_⟩
      refine ⟨List.isEmpty_iff.mp none, _, List.take_prefix limit _, ?_⟩
      rw [withCursor, ← topics, ← groups]
      simp only [topics, groups]
  · exact ⟨fun message member => List.mem_of_mem_filter (List.take_subset _ _ member), .inl rfl⟩

theorem given_withCursor {fresh more : List Message} {next : Nat} {pending : List Nat}
    (upTo : next = (broker.cursor topic group).next + fresh.length)
    (rest : fresh ++ more = (broker.messagesOf topic).drop (broker.cursor topic group).next) :
    (broker.withCursor ⟨topic, group, next, pending⟩).given topic group =
      broker.given topic group ++ fresh := by
  rw [given, cursor_withCursor_self ⟨rfl, rfl⟩, upTo]
  change (broker.messagesOf topic).take _ = _
  rw [List.take_add, ← rest, List.take_left]
  rfl

theorem take_acknowledged (sound : broker.Sound) (topic group : String) (limit : Nat)
    (other another : String) :
    (broker.take topic group limit).2.acknowledged other another =
      broker.acknowledged other another := by
  obtain ⟨-, same | ⟨none, fresh, ⟨more, rest⟩, moved⟩⟩ := broker.take_cases topic group limit
  · rw [same]
  · by_cases names : topic = other ∧ group = another
    · obtain ⟨rfl, rfl⟩ := names
      rw [moved, acknowledged, given_withCursor rfl rest, cursor_withCursor_self ⟨rfl, rfl⟩,
        List.filter_append, acknowledged, none]
      have unique := sound.unique topic
      rw [← List.take_append_drop (broker.cursor topic group).next (broker.messagesOf topic),
        ← rest, ← List.append_assoc, List.map_append, List.map_append] at unique
      have apart := (List.nodup_append.mp (List.nodup_append.mp unique).1).2.2
      -- Nothing that was given before is among the new messages, and all of them are pending.
      have old : (broker.given topic group).filter
          (fun message => !(fresh.map (·.id)).contains message.id) = broker.given topic group := by
        refine List.filter_eq_self.mpr fun message member => ?_
        have listed : message.id ∉ fresh.map (·.id) := fun again =>
          apart _ (List.mem_map_of_mem member) _ again rfl
        simpa using listed
      have new : fresh.filter (fun message => !(fresh.map (·.id)).contains message.id) = [] := by
        refine List.filter_eq_nil_iff.mpr fun message member => ?_
        have listed := List.mem_map_of_mem member (f := (·.id))
        simpa using listed
      rw [old, new, List.append_nil]
      exact (List.filter_eq_self.mpr fun _ _ => rfl).symm
    · rw [moved, acknowledged_withCursor_other names]

theorem take_sound (sound : broker.Sound) (topic group : String) (limit : Nat) :
    (broker.take topic group limit).2.Sound := by
  obtain ⟨-, same | ⟨none, fresh, ⟨more, rest⟩, moved⟩⟩ := broker.take_cases topic group limit
  · rw [same]
    exact sound
  · rw [moved]
    refine ⟨sound.numbered, fun other another => ?_⟩
    rw [cursor_withCursor]
    split
    · next names =>
        obtain ⟨rfl, rfl⟩ := names
        have length := congrArg List.length rest
        rw [List.length_append, List.length_drop] at length
        have behind := sound.behind topic group
        change _ + fresh.length ≤ (broker.messagesOf topic).length
        omega
    · exact sound.behind other another

theorem take_messages (broker : Broker) (topic group : String) (limit : Nat) :
    (broker.take topic group limit).2.messages = broker.messages := by
  obtain ⟨-, same | ⟨-, _, -, moved⟩⟩ := broker.take_cases topic group limit
  · rw [same]
  · rw [moved]
    rfl

/-- What a group receives are messages of the topic.  No message comes or goes by that, and none is
acknowledged. -/
theorem receive_spec (sound : broker.Sound) (topic group : String) (limit : Nat)
    (block : Duration) :
    (∀ message ∈ (broker.receive topic group limit block none).1,
      message ∈ broker.messagesOf topic) ∧
      (broker.receive topic group limit block none).2.2.messages = broker.messages ∧
      (broker.receive topic group limit block none).2.2.Sound ∧
      ∀ other another, (broker.receive topic group limit block none).2.2.acknowledged other
        another = broker.acknowledged other another := by
  have firstSound := take_sound sound topic group limit
  have firstMessages := broker.take_messages topic group limit
  have firstAcknowledged := take_acknowledged sound topic group limit
  simp only [receive]
  split
  · exact ⟨(broker.take_cases topic group limit).1, firstMessages, firstSound, firstAcknowledged⟩
  · refine ⟨?_, ?_, take_sound firstSound topic group limit, ?_⟩
    · intro message member
      have again :=
        ((broker.take topic group limit).2.take_cases topic group limit).1 message member
      rwa [messagesOf, firstMessages] at again
    · rw [take_messages, firstMessages]
    · intro other another
      rw [take_acknowledged firstSound, firstAcknowledged]

theorem deliveryNumber?_toString (number : Nat) :
    deliveryNumber? (toString number) = if number < wordSize 64 then some number else none := by
  have writes := Text.toString_writes number
  unfold deliveryNumber?
  generalize (toString number).toList = row at *
  obtain ⟨first, others, rfl, digit⟩ := writes.cons
  have unsigned : ∀ rest, first :: others ≠ '+' :: rest := by
    rintro rest ⟨⟩
    contradiction
  simp only [writes.isEmpty, writes.digits, writes.value_eq, Bool.false_eq_true, not_true, or_self,
    if_false]

theorem acknowledge_cases (broker : Broker) (topic group deliveryId : String) :
    (broker.acknowledge topic group deliveryId).2 = broker ∧
      (∀ id, deliveryNumber? deliveryId = some id → id ∉ (broker.cursor topic group).pending) ∨
    ∃ id, deliveryNumber? deliveryId = some id ∧ id ∈ (broker.cursor topic group).pending ∧
      (broker.acknowledge topic group deliveryId).2 = broker.withCursor
        ⟨topic, group, (broker.cursor topic group).next,
          (broker.cursor topic group).pending.filter (· != id)⟩ := by
  obtain ⟨topics, groups⟩ := broker.cursor_names topic group
  unfold acknowledge
  cases named : deliveryNumber? deliveryId with
  | none => exact .inl ⟨rfl, nofun⟩
  | some id =>
      dsimp only
      split
      · next pending =>
          refine .inr ⟨id, rfl, by simpa using pending, ?_⟩
          simp only [topics, groups]
          rfl
      · next absent =>
          refine .inl ⟨rfl, ?_⟩
          rintro _ ⟨⟩
          simpa using absent

theorem acknowledge_messages (broker : Broker) (topic group deliveryId : String) :
    (broker.acknowledge topic group deliveryId).2.messages = broker.messages := by
  obtain ⟨same, -⟩ | ⟨_, -, -, moved⟩ := broker.acknowledge_cases topic group deliveryId
  · rw [same]
  · rw [moved]
    rfl

/-- Acknowledging a message that the group was given makes it acknowledged, and no other. -/
theorem mem_acknowledge (topic group : String) (id : Nat) (other another : String) :
    message ∈ (broker.acknowledge topic group (toString id)).2.acknowledged other another ↔
      message ∈ broker.acknowledged other another ∨ id < wordSize 64 ∧ topic = other ∧
        group = another ∧ message.id = id ∧ message ∈ broker.given topic group := by
  have parsed := deliveryNumber?_toString id
  obtain ⟨same, absent⟩ | ⟨number, names, -, moved⟩ :=
    broker.acknowledge_cases topic group (toString id)
  · rw [same, mem_acknowledged, iff_self_or]
    rintro ⟨small, rfl, rfl, rfl, present⟩
    rw [if_pos small] at parsed
    exact ⟨present, absent _ parsed⟩
  · -- A number that is read back is that of the message, unless it is too large to be read.
    rw [names] at parsed
    split at parsed
    · next small =>
        obtain rfl := Option.some.inj parsed
        rw [moved]
        by_cases own : topic = other ∧ group = another
        · obtain ⟨rfl, rfl⟩ := own
          have kept : (broker.withCursor ⟨topic, group, (broker.cursor topic group).next,
              (broker.cursor topic group).pending.filter (· != number)⟩).given topic group =
              broker.given topic group ++ [] := given_withCursor rfl (List.nil_append _)
          rw [mem_acknowledged, kept, cursor_withCursor_self ⟨rfl, rfl⟩, mem_acknowledged]
          simp only [List.append_nil, List.mem_filter, bne_iff_ne, small, true_and]
          tauto
        · rw [acknowledged_withCursor_other own, iff_self_or]
          rintro ⟨-, topics, groups, -⟩
          exact absurd ⟨topics, groups⟩ own
    · contradiction

theorem acknowledge_sound (sound : broker.Sound) (topic group deliveryId : String) :
    (broker.acknowledge topic group deliveryId).2.Sound := by
  obtain ⟨same, -⟩ | ⟨_, -, -, moved⟩ := broker.acknowledge_cases topic group deliveryId
  · rw [same]
    exact sound
  · rw [moved]
    refine ⟨sound.numbered, fun other another => ?_⟩
    rw [cursor_withCursor]
    split
    · next names =>
        obtain ⟨rfl, rfl⟩ := names
        exact sound.behind topic group
    · exact sound.behind other another

end SpotSettlement.Broker
