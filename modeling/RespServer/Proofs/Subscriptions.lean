import RespServer.Proofs.Mailboxes

/-!
Contract: what the receivers of a channel are given.

Owns:
- what the events alone say: who listens to which channel, and what is sent to it;
- `Delivers`, receptions that take messages one after the other or report how many are missed;
- that each receiver is given what was sent to its channel after it subscribed.

Does not own: that channels are mailboxes (`Proofs.Mailboxes`).
-/

namespace RespServer

namespace PubSub

/-! ## What the events alone say -/

def enroll (listeners : List (Option String)) : Event → List (Option String)
  | .subscribe channel => listeners ++ [some channel]
  | .unsubscribe receiver => listeners.set receiver none
  | .publish _ _ | .receive _ => listeners

/-- The channel that each receiver listens to, in the order of subscription; none stands for a
receiver that was dropped. -/
def listeners (events : List Event) : List (Option String) :=
  events.foldl enroll []

def Event.sentTo? (channel : String) : Event → Option Bytes
  | .publish other message => if other = channel then some message else none
  | .subscribe _ | .unsubscribe _ | .receive _ => none

/-- The messages that are published to a channel, in order. -/
def sent (channel : String) (events : List Event) : List Bytes :=
  events.filterMap (Event.sentTo? channel)

/-- What a receiver is given during events, one reception for each time that it asks. -/
def receptions (receiver : Nat) (pubsub : PubSub) : List Event → List Reception
  | [] => []
  | event :: rest =>
      let later := receptions receiver (pubsub.step event) rest
      if event = .receive receiver then (pubsub.receive receiver).1 :: later else later

/-- From the messages that were sent, the receptions take one after the other, apart from those
that they report as missed; the last ones still wait. -/
inductive Delivers : (sent : List Bytes) → List Reception → (waiting : List Bytes) → Prop
  | none {waiting : List Bytes} : Delivers waiting [] waiting
  | message {octets : Bytes} {sent waiting : List Bytes} {later : List Reception} :
      Delivers sent later waiting → Delivers (octets :: sent) (.message octets :: later) waiting
  | missed {lost sent waiting : List Bytes} {later : List Reception} :
      Delivers sent later waiting →
      Delivers (lost ++ sent) (.lagged lost.length :: later) waiting
  | empty {sent waiting : List Bytes} {later : List Reception} :
      Delivers sent later waiting → Delivers sent (.empty :: later) waiting

theorem offered_ne_closed (waiting : List Bytes) : offered waiting ≠ .closed := by
  unfold offered
  split
  · nofun
  · cases waiting <;> nofun

theorem channelsOf_deliver (boxes : List (Option Mailbox)) (event : Event) :
    channelsOf (deliver boxes event) = enroll (channelsOf boxes) event := by
  cases event with
  | subscribe channel => simp [channelsOf, deliver, enroll]
  | unsubscribe receiver => simp [channelsOf, deliver, enroll, List.map_set]
  | publish channel message =>
      have kept : Mailbox.channel ∘ Mailbox.put channel message = Mailbox.channel := by
        funext box
        rw [Function.comp_apply, Mailbox.put]
        split <;> rfl
      simp [channelsOf, deliver, enroll, kept]
  | receive receiver =>
      have kept : Option.map Mailbox.channel ∘ Option.map Mailbox.take =
          Option.map Mailbox.channel := by
        funext box
        cases box <;> rfl
      apply List.ext_getElem?
      intro number
      simp only [channelsOf, deliver, enroll, List.getElem?_map, List.getElem?_modify]
      cases boxes[number]? with
      | none => rfl
      | some box =>
          by_cases same : receiver = number
          · simpa [same] using congrFun kept box
          · simp [same]

/-! ## What a mailbox holds after events -/

theorem channelsOf_foldl (boxes : List (Option Mailbox)) (events : List Event) :
    channelsOf (events.foldl deliver boxes) = events.foldl enroll (channelsOf boxes) := by
  induction events generalizing boxes with
  | nil => rfl
  | cons event rest inductionHypothesis =>
      rw [List.foldl_cons, List.foldl_cons, inductionHypothesis, channelsOf_deliver]

theorem append_unsent (box : Mailbox) {event : Event} (unsent : event.sentTo? box.channel = none) :
    { box with waiting := box.waiting ++ sent box.channel [event] } = box := by
  rw [sent, List.filterMap_cons_none unsent, List.filterMap_nil, List.append_nil]

/-- A mailbox that is not dropped keeps its place. It has one message more at its end after one of
its channel, and it is without what its receiver was told after the receiver asked. -/
theorem deliver_of_box {boxes : List (Option Mailbox)} {number : Nat} {box : Mailbox}
    (found : boxes[number]? = some (some box)) {event : Event}
    (stays : event ≠ .unsubscribe number) :
    (deliver boxes event)[number]? = some (some
      (if event = .receive number then box.take
      else { box with waiting := box.waiting ++ sent box.channel [event] })) := by
  cases event with
  | subscribe channel =>
      have inside := (List.getElem?_eq_some_iff.mp found).1
      rw [if_neg (by simp), append_unsent box rfl, deliver, List.getElem?_append_left inside, found]
  | unsubscribe other =>
      have apart : other ≠ number := fun same => stays (congrArg Event.unsubscribe same)
      rw [if_neg (by simp), append_unsent box rfl, deliver, List.getElem?_set_ne apart, found]
  | publish channel message =>
      rw [if_neg (by simp), deliver, List.getElem?_map, found, Option.map_some, Option.map_some,
        Mailbox.put, sent, List.filterMap_cons, List.filterMap_nil, Event.sentTo?]
      by_cases same : box.channel = channel
      · rw [if_pos same, if_pos same.symm]
      · rw [if_neg same, if_neg (Ne.symm same), List.append_nil]
  | receive other =>
      by_cases same : other = number
      · subst same
        have inside := (List.getElem?_eq_some_iff.mp found).1
        rw [if_pos rfl, deliver_receive_of_box found, List.getElem?_set_self inside]
      · have apart : ¬Event.receive other = .receive number := fun equal =>
          same (Event.receive.inj equal)
        rw [if_neg apart, append_unsent box rfl, deliver, List.getElem?_modify, found]
        simp [same]

theorem sent_cons (channel : String) (event : Event) (rest : List Event) :
    sent channel (event :: rest) = sent channel [event] ++ sent channel rest :=
  @List.filterMap_append _ _ [event] rest (Event.sentTo? channel)

/-- What a mailbox offers is taken out of it. -/
theorem Delivers.offered {box : Mailbox} {more left : List Bytes} {later : List Reception}
    (delivers : Delivers (box.take.waiting ++ more) later left) :
    Delivers (box.waiting ++ more) (PubSub.offered box.waiting :: later) left := by
  unfold PubSub.offered
  rw [Mailbox.take] at delivers
  dsimp only at delivers
  by_cases far : capacity < box.waiting.length
  · rw [if_pos far] at delivers ⊢
    have lost : (box.waiting.take (box.waiting.length - capacity)).length =
        box.waiting.length - capacity := List.length_take_of_le (Nat.sub_le _ _)
    have missed :=
      @Delivers.missed (box.waiting.take (box.waiting.length - capacity)) _ _ _ delivers
    rwa [lost, ← List.append_assoc, List.take_append_drop] at missed
  · rw [if_neg far] at delivers ⊢
    cases waiting : box.waiting with
    | nil =>
        rw [waiting] at delivers
        exact delivers.empty
    | cons message rest =>
        rw [waiting] at delivers
        exact delivers.message

/-- A receiver is given what waits for it and then what is sent to its channel. -/
theorem Mirrors.delivers {pubsub : PubSub} {boxes : List (Option Mailbox)}
    (mirrors : pubsub.Mirrors boxes) {number : Nat} {box : Mailbox}
    (found : boxes[number]? = some (some box)) {later : List Event}
    (stays : .unsubscribe number ∉ later) :
    ∃ left, (later.foldl deliver boxes)[number]? = some (some { box with waiting := left }) ∧
      Delivers (box.waiting ++ sent box.channel later) (receptions number pubsub later) left := by
  induction later generalizing pubsub boxes box with
  | nil =>
      refine ⟨box.waiting, found, ?_⟩
      rw [sent, List.filterMap_nil, List.append_nil]
      exact Delivers.none
  | cons event rest inductionHypothesis =>
      rw [List.mem_cons, not_or] at stays
      have next := deliver_of_box found (Ne.symm stays.1)
      obtain ⟨left, held, delivers⟩ := inductionHypothesis (mirrors.step event) next stays.2
      refine ⟨left, ?_, ?_⟩
      · rw [List.foldl_cons, held]
        split <;> rfl
      · rw [receptions, sent_cons]
        split at delivers
        · rename_i asks
          subst asks
          rw [if_pos rfl, mirrors.receive_answer found]
          exact delivers.offered
        · rename_i other
          rw [if_neg other, ← List.append_assoc]
          exact delivers

/-! ## Delivery -/

theorem mirrors_after (events : List Event) :
    (empty.after events).Mirrors (events.foldl deliver []) :=
  mirrors_empty.after events

theorem channelsOf_after (events : List Event) :
    channelsOf (events.foldl deliver []) = listeners events :=
  channelsOf_foldl [] events

/-- After any events, publishing to a channel counts the live receivers that subscribed to exactly
that channel, and the active channels are those with such a receiver, each once and ascending. A
receiver that is not dropped is given the messages that were sent to its channel after it
subscribed, in order, each once, apart from those that it is told it missed; it then has exactly
the others waiting, and its channel is never closed to it. -/
theorem delivery_complete_and_in_order :
    (∀ (events : List Event) (channel : String) (message : Bytes),
      ((empty.after events).publish channel message).1 =
        (listeners events).count (some channel)) ∧
    (∀ events : List Event,
      (empty.after events).activeChannels.Pairwise (· < ·) ∧
        ∀ channel, channel ∈ (empty.after events).activeChannels ↔
          some channel ∈ listeners events) ∧
    (∀ (before : List Event) (channel : String) (later : List Event),
      let number := ((empty.after before).subscribe channel).1
      let subscribed := ((empty.after before).subscribe channel).2
      number = (listeners before).length ∧
      (.unsubscribe number ∉ later →
        ∃ waiting, Delivers (sent channel later) (receptions number subscribed later) waiting ∧
          ((subscribed.after later).receive number).1 = offered waiting ∧
          ((subscribed.after later).receive number).1 ≠ .closed)) := by
  refine ⟨?_, ?_, ?_⟩
  · intro events channel message
    rw [(mirrors_after events).publish_count, channelsOf_after]
  · intro events
    rw [← channelsOf_after events]
    exact (mirrors_after events).activeChannels
  · intro before channel later number subscribed
    have mirrors := mirrors_after before
    have isNext : number = (before.foldl deliver []).length := mirrors.subscribe_number channel
    refine ⟨?_, fun stays => ?_⟩
    · rw [isNext, ← channelsOf_after, channelsOf, List.length_map]
    · have began : (before.foldl deliver [] ++ [some ⟨channel, []⟩])[number]? =
          some (some ⟨channel, []⟩) := by
        rw [isNext, List.getElem?_concat_length]
      have listening := mirrors.subscribe channel
      obtain ⟨waiting, held, delivers⟩ := listening.delivers began stays
      have answer := (listening.after later).receive_answer held
      refine ⟨waiting, delivers, answer, ?_⟩
      rw [answer]
      exact offered_ne_closed waiting

/-- A channel that was removed by a message that nobody got, and was then subscribed to again. -/
theorem second_generation_delivers :
    let before : List Event := [.subscribe "news", .unsubscribe 0, .publish "news" [120]]
    let later : List Event := [.publish "news" [97], .receive 1, .publish "news" [98]]
    let subscribed := ((empty.after before).subscribe "news").2
    Event.unsubscribe 1 ∉ later ∧ receptions 1 subscribed later = [.message [97]] ∧
      ∃ waiting, Delivers [[97], [98]] [.message [97]] waiting ∧
        ((subscribed.after later).receive 1).1 = offered waiting ∧
        ((subscribed.after later).receive 1).1 ≠ .closed := by
  intro before later subscribed
  obtain ⟨-, -, each⟩ := delivery_complete_and_in_order
  have stays : Event.unsubscribe 1 ∉ later := by decide
  have told : receptions 1 subscribed later = [.message [97]] := by decide
  refine ⟨stays, told, ?_⟩
  rw [← told]
  exact (each before "news" later).2 stays

end PubSub

end RespServer
