import Mathlib.Data.List.Forall2
import RespServer.PubSub

/-!
Contract: the channels of the server are the mailboxes of their receivers.

Owns:
- what users do with channels, and runs of it;
- `Mailbox`, a receiver with the messages that wait for it, and what an event does to mailboxes;
- `Mirrors`, that channels, feeds and positions are these mailboxes, kept by every event.

Does not own: what a mailbox was filled with (`Proofs.Subscriptions`).

A channel is made when it is first subscribed to and removed by a message that nobody gets, so one
name can stand for several feeds in turn. That no receiver notices rests on two facts: each channel
has a feed of its own, and a channel that someone listens to is never removed.
-/

namespace RespServer

namespace PubSub

/-! ## Runs -/

/-- What the users of channels do. Receivers are named by the numbers that subscribing gave. -/
inductive Event where
  | subscribe (channel : String)
  | unsubscribe (receiver : Nat)
  | publish (channel : String) (message : Bytes)
  | receive (receiver : Nat)
deriving DecidableEq

def step (pubsub : PubSub) : Event → PubSub
  | .subscribe channel => (pubsub.subscribe channel).2
  | .unsubscribe receiver => (pubsub.unsubscribe receiver).2
  | .publish channel message => (pubsub.publish channel message).2
  | .receive receiver => (pubsub.receive receiver).2

def after (pubsub : PubSub) (events : List Event) : PubSub :=
  events.foldl step pubsub

/-! ## Mailboxes -/

/-- A receiver seen from outside: its channel, and the messages that it was not given yet. -/
structure Mailbox where
  channel : String
  waiting : List Bytes

/-- What asking yields when these messages wait: the first of them, or how many of them are lost
because only the last ones are kept. -/
def offered (waiting : List Bytes) : Reception :=
  if capacity < waiting.length then .lagged (waiting.length - capacity)
  else waiting.head?.elim .empty .message

namespace Mailbox

def put (channel : String) (message : Bytes) (box : Mailbox) : Mailbox :=
  if box.channel = channel then { box with waiting := box.waiting ++ [message] } else box

/-- The mailbox after its receiver asked: without the message that it was given, or without those
that it missed. -/
def take (box : Mailbox) : Mailbox :=
  { box with
    waiting :=
      if capacity < box.waiting.length then box.waiting.drop (box.waiting.length - capacity)
      else box.waiting.tail }

end Mailbox

/-- What an event does to mailboxes. -/
def deliver (boxes : List (Option Mailbox)) : Event → List (Option Mailbox)
  | .subscribe channel => boxes ++ [some ⟨channel, []⟩]
  | .unsubscribe receiver => boxes.set receiver none
  | .publish channel message => boxes.map (Option.map (Mailbox.put channel message))
  | .receive receiver => boxes.modify receiver (Option.map Mailbox.take)

def channelsOf (boxes : List (Option Mailbox)) : List (Option String) :=
  boxes.map (Option.map Mailbox.channel)

/-! ## Lists in step -/

theorem rel_getElem? {R : α → β → Prop} {first : List α} {second : List β}
    (related : List.Forall₂ R first second) (position : Nat) :
    Option.Rel R first[position]? second[position]? := by
  induction related generalizing position with
  | nil => exact Option.Rel.none
  | cons heads _ inductionHypothesis =>
      cases position with
      | zero => exact Option.Rel.some heads
      | succ position => exact inductionHypothesis position

theorem forall₂_set {R : α → β → Prop} {first : List α} {second : List β}
    (related : List.Forall₂ R first second) {left : α} {right : β} (replaced : R left right)
    (position : Nat) : List.Forall₂ R (first.set position left) (second.set position right) := by
  induction related generalizing position with
  | nil => exact List.Forall₂.nil
  | cons heads tails inductionHypothesis =>
      cases position with
      | zero => exact List.Forall₂.cons replaced tails
      | succ position => exact List.Forall₂.cons heads (inductionHypothesis position)

/-! ## The registry as mailboxes -/

/-- The position of a receiver in the feed of its channel is a mailbox. -/
structure Shows (pubsub : PubSub) (receiver : Receiver) (box : Mailbox) : Prop where
  registered : pubsub.channels[box.channel]? = some receiver.feed
  within : receiver.next ≤ (pubsub.messages receiver.feed).size
  waiting : (pubsub.messages receiver.feed).toList.drop receiver.next = box.waiting

/-- Each channel has a feed of its own, and the receivers are mailboxes. -/
structure Mirrors (pubsub : PubSub) (boxes : List (Option Mailbox)) : Prop where
  apart : ∀ {first second : String} {feed : Nat}, pubsub.channels[first]? = some feed →
    pubsub.channels[second]? = some feed → first = second
  known : ∀ {channel : String} {feed : Nat}, pubsub.channels[channel]? = some feed →
    feed < pubsub.feeds.size
  receivers : List.Forall₂ (Option.Rel pubsub.Shows) pubsub.receivers.toList boxes

theorem mirrors_empty : empty.Mirrors [] where
  apart := by simp [empty]
  known := by simp [empty]
  receivers := List.Forall₂.nil

section Mirroring

variable {pubsub : PubSub} {boxes : List (Option Mailbox)}

theorem count_of_forall₂ {receivers : List (Option Receiver)}
    (apart : ∀ {first second : String} {feed : Nat}, pubsub.channels[first]? = some feed →
      pubsub.channels[second]? = some feed → first = second)
    (shown : List.Forall₂ (Option.Rel pubsub.Shows) receivers boxes) {channel : String}
    {feed : Nat} (registered : pubsub.channels[channel]? = some feed) :
    receivers.countP (fun receiver => receiver.any fun receiver => receiver.feed = feed) =
      (channelsOf boxes).count (some channel) := by
  induction shown with
  | nil => rfl
  | @cons receiver box receivers boxes related _ inductionHypothesis =>
      rw [List.countP_cons, channelsOf, List.map_cons, List.count_cons, ← channelsOf,
        inductionHypothesis]
      congr 1
      cases related with
      | none => rfl
      | @some receiver box shows =>
          have same : receiver.feed = feed ↔ box.channel = channel := by
            constructor
            · rintro rfl
              exact apart shows.registered registered
            · rintro rfl
              exact Option.some.inj (shows.registered.symm.trans registered)
          simp [same]

/-- The receivers of a feed are those that listen to its channel. -/
theorem Mirrors.receiverCount (mirrors : pubsub.Mirrors boxes) {channel : String} {feed : Nat}
    (registered : pubsub.channels[channel]? = some feed) :
    pubsub.receiverCount feed = (channelsOf boxes).count (some channel) := by
  rw [PubSub.receiverCount, ← Array.countP_toList]
  exact count_of_forall₂ mirrors.apart mirrors.receivers registered

theorem Mirrors.related (mirrors : pubsub.Mirrors boxes) (number : Nat) :
    Option.Rel (Option.Rel pubsub.Shows) pubsub.receivers[number]? boxes[number]? := by
  rw [← Array.getElem?_toList]
  exact rel_getElem? mirrors.receivers number

/-- A mailbox belongs to the receiver of the same number. -/
theorem Mirrors.receiver_of_box (mirrors : pubsub.Mirrors boxes) {number : Nat} {box : Mailbox}
    (found : boxes[number]? = some (some box)) :
    ∃ receiver, pubsub.receivers[number]? = some (some receiver) ∧ pubsub.Shows receiver box := by
  have related := mirrors.related number
  rw [found] at related
  generalize pubsub.receivers[number]? = slot at related
  cases related with
  | some shown =>
      cases shown with
      | some shows => exact ⟨_, rfl, shows⟩

theorem Mirrors.no_receiver (mirrors : pubsub.Mirrors boxes) {number : Nat}
    (absent : ∀ box, boxes[number]? ≠ some (some box)) :
    ∀ receiver, pubsub.receivers[number]? ≠ some (some receiver) := by
  intro receiver held
  have related := mirrors.related number
  rw [held] at related
  generalize boxes[number]? = slot at related absent
  cases related with
  | some shown =>
      cases shown with
      | some shows => exact absent _ rfl

/-- A channel that someone listens to is registered. -/
theorem Mirrors.registered_of_mem (mirrors : pubsub.Mirrors boxes) {channel : String}
    (listened : some channel ∈ channelsOf boxes) :
    ∃ feed, pubsub.channels[channel]? = some feed := by
  obtain ⟨slot, member, same⟩ := List.mem_map.mp listened
  obtain ⟨box, rfl, rfl⟩ := Option.map_eq_some_iff.mp same
  obtain ⟨number, found⟩ := List.getElem?_of_mem member
  obtain ⟨receiver, -, shows⟩ := mirrors.receiver_of_box found
  exact ⟨receiver.feed, shows.registered⟩

theorem Mirrors.unheard (mirrors : pubsub.Mirrors boxes) {channel : String}
    (absent : pubsub.channels[channel]? = none) : some channel ∉ channelsOf boxes := by
  intro listened
  obtain ⟨feed, found⟩ := mirrors.registered_of_mem listened
  rw [absent] at found
  cases found

/-! ## What each operation answers -/

theorem Mirrors.subscribe_number (mirrors : pubsub.Mirrors boxes) (channel : String) :
    (pubsub.subscribe channel).1 = boxes.length := by
  have lengths := mirrors.receivers.length_eq
  rw [Array.length_toList] at lengths
  rw [subscribe, ← lengths]
  cases pubsub.channels[channel]? <;> rfl

theorem Mirrors.publish_count (mirrors : pubsub.Mirrors boxes) (channel : String)
    (message : Bytes) :
    (pubsub.publish channel message).1 = (channelsOf boxes).count (some channel) := by
  unfold publish
  cases registered : pubsub.channels[channel]? with
  | none => exact (List.count_eq_zero_of_not_mem (mirrors.unheard registered)).symm
  | some feed =>
      dsimp only
      rw [mirrors.receiverCount registered]
      split
      · rename_i nobody
        exact nobody.symm
      · rfl

theorem compare_eq_lt_iff (left right : String) : compare left right = .lt ↔ left < right :=
  compareOfLessAndEq_eq_lt

theorem Mirrors.activeChannels (mirrors : pubsub.Mirrors boxes) :
    pubsub.activeChannels.Pairwise (· < ·) ∧
      ∀ channel, channel ∈ pubsub.activeChannels ↔ some channel ∈ channelsOf boxes := by
  constructor
  · have ascending : pubsub.channels.keys.Pairwise (· < ·) :=
      Std.ExtTreeMap.ordered_keys.imp fun ordered => (compare_eq_lt_iff _ _).mp ordered
    rw [← Std.ExtTreeMap.map_fst_toList_eq_keys] at ascending
    exact ascending.sublist (List.filter_sublist.map Prod.fst)
  · intro channel
    rw [PubSub.activeChannels, List.mem_map]
    constructor
    · rintro ⟨⟨channel, feed⟩, listed, rfl⟩
      obtain ⟨member, positive⟩ := List.mem_filter.mp listed
      have registered := Std.ExtTreeMap.mem_toList_iff_getElem?_eq_some.mp member
      rw [decide_eq_true_eq, mirrors.receiverCount registered] at positive
      exact List.count_pos_iff.mp positive
    · intro listened
      obtain ⟨feed, registered⟩ := mirrors.registered_of_mem listened
      refine ⟨(channel, feed), List.mem_filter.mpr ⟨?_, ?_⟩, rfl⟩
      · exact Std.ExtTreeMap.mem_toList_iff_getElem?_eq_some.mpr registered
      · rw [decide_eq_true_eq, mirrors.receiverCount registered]
        exact List.count_pos_iff.mpr listened

/-! ## What each operation leaves -/

theorem Shows.isOpen {receiver : Receiver} {box : Mailbox} (shows : pubsub.Shows receiver box) :
    pubsub.isOpen receiver.feed = true := by
  rw [PubSub.isOpen, List.any_eq_true]
  refine ⟨(box.channel, receiver.feed), ?_, decide_eq_true rfl⟩
  exact Std.ExtTreeMap.mem_toList_iff_getElem?_eq_some.mpr shows.registered

theorem Shows.length {receiver : Receiver} {box : Mailbox} (shows : pubsub.Shows receiver box) :
    box.waiting.length = (pubsub.messages receiver.feed).size - receiver.next := by
  rw [← shows.waiting, List.length_drop, Array.length_toList]

/-- A receiver whose position in its feed is set. -/
def moveTo (pubsub : PubSub) (number : Nat) (receiver : Receiver) (next : Nat) : PubSub :=
  { pubsub with
    receivers := pubsub.receivers.setIfInBounds number (some { receiver with next := next }) }

/-- What asking can come to for the receiver of a mailbox. -/
inductive Asked (pubsub : PubSub) (number : Nat) (receiver : Receiver) (box : Mailbox) :
    Reception × PubSub → Prop
  | missed :
      capacity < box.waiting.length →
      Asked pubsub number receiver box
        (.lagged (box.waiting.length - capacity),
          pubsub.moveTo number receiver ((pubsub.messages receiver.feed).size - capacity))
  | given {message : Bytes} {rest : List Bytes} :
      ¬capacity < box.waiting.length → box.waiting = message :: rest →
      Asked pubsub number receiver box
        (.message message, pubsub.moveTo number receiver (receiver.next + 1))
  | nothing :
      box.waiting = [] → Asked pubsub number receiver box (.empty, pubsub)

theorem Shows.asked {number : Nat} {receiver : Receiver} {box : Mailbox}
    (shows : pubsub.Shows receiver box)
    (held : pubsub.receivers[number]? = some (some receiver)) :
    pubsub.Asked number receiver box (pubsub.receive number) := by
  have behind := shows.length
  have within := shows.within
  unfold receive
  rw [held]
  dsimp only
  by_cases far : capacity < box.waiting.length
  · rw [if_pos (by omega)]
    have missed : (pubsub.messages receiver.feed).size - capacity - receiver.next =
        box.waiting.length - capacity := by omega
    rw [missed]
    exact Asked.missed far
  · rw [if_neg (by omega)]
    have first : (pubsub.messages receiver.feed)[receiver.next]? = box.waiting.head? := by
      rw [← shows.waiting, List.head?_drop, Array.getElem?_toList]
    rw [first]
    cases waiting : box.waiting with
    | nil =>
        dsimp only [List.head?_nil]
        rw [shows.isOpen]
        exact Asked.nothing waiting
    | cons message rest => exact Asked.given far waiting

/-- Asking is told what the mailbox offers. -/
theorem Mirrors.receive_answer (mirrors : pubsub.Mirrors boxes) {number : Nat} {box : Mailbox}
    (found : boxes[number]? = some (some box)) :
    (pubsub.receive number).1 = offered box.waiting := by
  obtain ⟨receiver, held, shows⟩ := mirrors.receiver_of_box found
  have asked := shows.asked held
  generalize pubsub.receive number = result at asked
  cases asked with
  | missed far => exact (if_pos far).symm
  | given near waiting => rw [offered, if_neg near, waiting]; rfl
  | nothing waiting => rw [waiting]; rfl

/-- Receivers are still mailboxes after a change that each mailbox shows. -/
theorem forall₂_shows {after : PubSub} {receivers : List (Option Receiver)}
    (shown : List.Forall₂ (Option.Rel pubsub.Shows) receivers boxes) {change : Mailbox → Mailbox}
    (keeps : ∀ {receiver : Receiver} {box : Mailbox}, some box ∈ boxes →
      pubsub.Shows receiver box → after.Shows receiver (change box)) :
    List.Forall₂ (Option.Rel after.Shows) receivers (boxes.map (Option.map change)) := by
  induction shown with
  | nil => exact List.Forall₂.nil
  | cons related _ inductionHypothesis =>
      refine List.Forall₂.cons ?_ (inductionHypothesis fun member =>
        keeps (List.mem_cons_of_mem _ member))
      cases related with
      | none => exact Option.Rel.none
      | some shows => exact Option.Rel.some (keeps List.mem_cons_self shows)

/-- Receivers are the same mailboxes after a change that no mailbox notices. -/
theorem Mirrors.unnoticed (mirrors : pubsub.Mirrors boxes) {after : PubSub}
    (keeps : ∀ {receiver : Receiver} {box : Mailbox}, some box ∈ boxes →
      pubsub.Shows receiver box → after.Shows receiver box) :
    List.Forall₂ (Option.Rel after.Shows) pubsub.receivers.toList boxes := by
  have shown : List.Forall₂ (Option.Rel after.Shows) pubsub.receivers.toList
      (boxes.map (Option.map id)) := forall₂_shows mirrors.receivers keeps
  rwa [Option.map_id, List.map_id] at shown

/-- The slot of one receiver and its mailbox are replaced. -/
theorem Mirrors.set (mirrors : pubsub.Mirrors boxes) (number : Nat) {slot : Option Receiver}
    {box : Option Mailbox} (shown : Option.Rel pubsub.Shows slot box) :
    Mirrors { pubsub with receivers := pubsub.receivers.setIfInBounds number slot }
      (boxes.set number box) where
  apart := mirrors.apart
  known := mirrors.known
  receivers := by
    rw [Array.toList_setIfInBounds]
    have replaced := forall₂_set mirrors.receivers shown number
    refine replaced.imp fun slot box related => ?_
    cases related with
    | none => exact Option.Rel.none
    | some shows => exact Option.Rel.some ⟨shows.registered, shows.within, shows.waiting⟩

theorem setIfInBounds_none {receivers : Array (Option Receiver)} {number : Nat}
    (nobody : ∀ receiver, receivers[number]? ≠ some (some receiver)) :
    receivers.setIfInBounds number none = receivers := by
  apply Array.ext_getElem?
  intro other
  rw [Array.getElem?_setIfInBounds]
  split
  · rename_i same
    subst same
    cases held : receivers[number]? with
    | none => simp [Array.getElem?_eq_none_iff.mp held]
    | some slot =>
        cases slot with
        | none => simp [(Array.getElem?_eq_some_iff.mp held).1]
        | some receiver => exact absurd held (nobody receiver)
  · rfl

theorem Mirrors.unsubscribe (mirrors : pubsub.Mirrors boxes) (number : Nat) :
    (pubsub.unsubscribe number).2.Mirrors (boxes.set number none) := by
  have dropped := mirrors.set number Option.Rel.none
  unfold PubSub.unsubscribe
  split
  · exact dropped
  · rename_i nobody
    rw [setIfInBounds_none nobody] at dropped
    exact dropped

theorem messages_push {feed : Nat} (known : feed < pubsub.feeds.size)
    (channels : Std.ExtTreeMap String Nat) (receivers : Array (Option Receiver)) :
    messages ⟨channels, pubsub.feeds.push #[], receivers⟩ feed = pubsub.messages feed := by
  rw [messages, messages, Array.getElem?_push, if_neg (Nat.ne_of_lt known)]

/-- A new channel has a feed that no other channel has. -/
theorem Mirrors.register (mirrors : pubsub.Mirrors boxes) {channel : String}
    (absent : pubsub.channels[channel]? = none) :
    Mirrors { pubsub with
      channels := pubsub.channels.insert channel pubsub.feeds.size
      feeds := pubsub.feeds.push #[] } boxes where
  apart := by
    intro first second feed atFirst atSecond
    rw [Std.ExtTreeMap.getElem?_insert] at atFirst atSecond
    split at atFirst <;> split at atSecond
    · rename_i isFirst isSecond
      rw [← Std.compare_eq_iff_eq.mp isFirst, Std.compare_eq_iff_eq.mp isSecond]
    · cases atFirst
      exact absurd (mirrors.known atSecond) (Nat.lt_irrefl _)
    · cases atSecond
      exact absurd (mirrors.known atFirst) (Nat.lt_irrefl _)
    · exact mirrors.apart atFirst atSecond
  known := by
    intro other feed registered
    rw [Array.size_push]
    rw [Std.ExtTreeMap.getElem?_insert] at registered
    split at registered
    · cases registered
      exact Nat.lt_succ_self _
    · exact Nat.lt_succ_of_lt (mirrors.known registered)
  receivers := by
    refine mirrors.unnoticed fun {receiver box} _ shows => ?_
    have known := mirrors.known shows.registered
    have other : ¬compare channel box.channel = .eq := by
      intro same
      have registered := shows.registered
      rw [← Std.compare_eq_iff_eq.mp same, absent] at registered
      cases registered
    have same := messages_push known (pubsub.channels.insert channel pubsub.feeds.size)
      pubsub.receivers
    refine ⟨?_, ?_, ?_⟩
    · rw [Std.ExtTreeMap.getElem?_insert, if_neg other]
      exact shows.registered
    · rw [same]
      exact shows.within
    · rw [same]
      exact shows.waiting

/-- A new receiver of a channel has an empty mailbox. -/
theorem Mirrors.listen (mirrors : pubsub.Mirrors boxes) {channel : String} {feed : Nat}
    (registered : pubsub.channels[channel]? = some feed) :
    Mirrors { pubsub with
      receivers := pubsub.receivers.push (some ⟨feed, (pubsub.messages feed).size⟩) }
      (boxes ++ [some ⟨channel, []⟩]) where
  apart := mirrors.apart
  known := mirrors.known
  receivers := by
    rw [Array.toList_push]
    refine List.rel_append ?_ (List.Forall₂.cons (Option.Rel.some ?_) List.Forall₂.nil)
    · exact mirrors.unnoticed fun _ shows => ⟨shows.registered, shows.within, shows.waiting⟩
    · refine ⟨registered, Nat.le_refl _, ?_⟩
      exact List.drop_of_length_le (Nat.le_of_eq Array.length_toList)

theorem Mirrors.subscribe (mirrors : pubsub.Mirrors boxes) (channel : String) :
    (pubsub.subscribe channel).2.Mirrors (boxes ++ [some ⟨channel, []⟩]) := by
  unfold PubSub.subscribe
  cases registered : pubsub.channels[channel]? with
  | some feed => exact mirrors.listen registered
  | none =>
      have opened := mirrors.register registered
      exact opened.listen Std.ExtTreeMap.getElem?_insert_self

/-- A channel without listeners is removed; no mailbox notices. -/
theorem Mirrors.close (mirrors : pubsub.Mirrors boxes) {channel : String}
    (unheard : some channel ∉ channelsOf boxes) :
    Mirrors { pubsub with channels := pubsub.channels.erase channel } boxes where
  apart := by
    intro first second feed atFirst atSecond
    rw [Std.ExtTreeMap.getElem?_erase] at atFirst atSecond
    split at atFirst <;> split at atSecond
    · cases atFirst
    · cases atFirst
    · cases atSecond
    · exact mirrors.apart atFirst atSecond
  known := by
    intro other feed registered
    rw [Std.ExtTreeMap.getElem?_erase] at registered
    split at registered
    · cases registered
    · exact mirrors.known registered
  receivers := by
    refine mirrors.unnoticed fun {receiver box} member shows => ?_
    have other : ¬compare channel box.channel = .eq := by
      intro same
      rw [Std.compare_eq_iff_eq.mp same] at unheard
      exact unheard (List.mem_map_of_mem member)
    refine ⟨?_, shows.within, shows.waiting⟩
    rw [Std.ExtTreeMap.getElem?_erase, if_neg other]
    exact shows.registered

theorem messages_modify (channels : Std.ExtTreeMap String Nat) (feeds : Array (Array Bytes))
    (receivers : Array (Option Receiver)) {feed : Nat} (known : feed < feeds.size) (other : Nat)
    (message : Bytes) :
    messages ⟨channels, feeds.modify feed fun log => log.push message, receivers⟩ other =
      if feed = other then (messages ⟨channels, feeds, receivers⟩ other).push message
      else messages ⟨channels, feeds, receivers⟩ other := by
  rw [messages, messages, Array.getElem?_modify]
  split
  · rename_i same
    subst same
    rw [Array.getElem?_eq_getElem known]
    rfl
  · rfl

/-- A message goes to the mailboxes of its channel. -/
theorem Mirrors.append (mirrors : pubsub.Mirrors boxes) {channel : String} {feed : Nat}
    (registered : pubsub.channels[channel]? = some feed) (message : Bytes) :
    Mirrors { pubsub with feeds := pubsub.feeds.modify feed fun log => log.push message }
      (boxes.map (Option.map (Mailbox.put channel message))) where
  apart := mirrors.apart
  known := by
    intro _ _
    rw [Array.size_modify]
    exact mirrors.known
  receivers := by
    refine forall₂_shows mirrors.receivers fun {receiver box} _ shows => ?_
    have log := messages_modify pubsub.channels pubsub.feeds pubsub.receivers
      (mirrors.known registered) receiver.feed message
    rw [Mailbox.put]
    split
    · rename_i same
      subst same
      have own : feed = receiver.feed :=
        Option.some.inj (registered.symm.trans shows.registered)
      rw [if_pos own] at log
      refine ⟨shows.registered, ?_, ?_⟩
      · rw [log, Array.size_push]
        exact Nat.le_succ_of_le shows.within
      · rw [log, Array.toList_push, List.drop_append_of_le_length, shows.waiting]
        exact shows.within
    · rename_i different
      have other : ¬feed = receiver.feed := by
        rintro rfl
        exact different (mirrors.apart shows.registered registered)
      rw [if_neg other] at log
      refine ⟨shows.registered, ?_, ?_⟩
      · rw [log]
        exact shows.within
      · rw [log]
        exact shows.waiting

theorem put_of_unheard {channel : String} (unheard : some channel ∉ channelsOf boxes)
    (message : Bytes) : boxes.map (Option.map (Mailbox.put channel message)) = boxes := by
  refine (List.map_congr_left fun slot member => ?_).trans (List.map_id boxes)
  cases slot with
  | none => rfl
  | some box =>
      have different : ¬box.channel = channel := by
        rintro rfl
        exact unheard (List.mem_map_of_mem member)
      rw [Option.map_some, Mailbox.put, if_neg different]
      rfl

theorem Mirrors.publish (mirrors : pubsub.Mirrors boxes) (channel : String) (message : Bytes) :
    (pubsub.publish channel message).2.Mirrors
      (boxes.map (Option.map (Mailbox.put channel message))) := by
  unfold PubSub.publish
  cases registered : pubsub.channels[channel]? with
  | none =>
      rw [put_of_unheard (mirrors.unheard registered)]
      exact mirrors
  | some feed =>
      dsimp only
      rw [mirrors.receiverCount registered]
      split
      · rename_i nobody
        have unheard := List.count_eq_zero.mp nobody
        rw [put_of_unheard unheard]
        exact mirrors.close unheard
      · exact mirrors.append registered message

theorem Mailbox.take_of_empty {box : Mailbox} (nothing : box.waiting = []) : box.take = box := by
  have near : ¬capacity < box.waiting.length := by simp [nothing]
  rw [Mailbox.take, if_neg near, nothing]
  exact congrArg (Mailbox.mk box.channel) nothing.symm

/-- Behind the messages that are no longer kept wait those that are. -/
theorem Shows.skip {receiver : Receiver} {box : Mailbox} (shows : pubsub.Shows receiver box)
    (far : capacity < box.waiting.length) :
    pubsub.Shows
      { receiver with next := (pubsub.messages receiver.feed).size - capacity } box.take := by
  have behind := shows.length
  refine ⟨shows.registered, Nat.sub_le _ _, ?_⟩
  have reached : receiver.next + (box.waiting.length - capacity) =
      (pubsub.messages receiver.feed).size - capacity := by omega
  rw [Mailbox.take, if_pos far]
  dsimp only
  rw [← reached, ← List.drop_drop, shows.waiting]

/-- Behind a message that was given wait those after it. -/
theorem Shows.advance {receiver : Receiver} {box : Mailbox} (shows : pubsub.Shows receiver box)
    (near : ¬capacity < box.waiting.length) (something : 0 < box.waiting.length) :
    pubsub.Shows { receiver with next := receiver.next + 1 } box.take := by
  have behind := shows.length
  refine ⟨shows.registered, ?_, ?_⟩
  · change receiver.next + 1 ≤ (pubsub.messages receiver.feed).size
    omega
  · rw [Mailbox.take, if_neg near]
    dsimp only
    rw [← shows.waiting, List.tail_drop]

theorem deliver_receive_of_box {number : Nat} {box : Mailbox}
    (found : boxes[number]? = some (some box)) :
    deliver boxes (.receive number) = boxes.set number (some box.take) := by
  rw [deliver, List.modify_eq_set_getElem?, found]
  rfl

theorem set_of_found {number : Nat} {slot : Option Mailbox} (found : boxes[number]? = some slot) :
    boxes.set number slot = boxes := by
  obtain ⟨inside, rfl⟩ := List.getElem?_eq_some_iff.mp found
  exact List.set_getElem_self inside

theorem deliver_receive_of_none {number : Nat}
    (absent : ∀ box, boxes[number]? ≠ some (some box)) :
    deliver boxes (.receive number) = boxes := by
  rw [deliver, List.modify_eq_set_getElem?]
  cases found : boxes[number]? with
  | none => rfl
  | some slot =>
      cases slot with
      | none => exact set_of_found found
      | some box => exact absurd found (absent box)

theorem Mirrors.receive (mirrors : pubsub.Mirrors boxes) (number : Nat) :
    (pubsub.receive number).2.Mirrors (deliver boxes (.receive number)) := by
  by_cases present : ∃ box, boxes[number]? = some (some box)
  · obtain ⟨box, found⟩ := present
    obtain ⟨receiver, held, shows⟩ := mirrors.receiver_of_box found
    rw [deliver_receive_of_box found]
    have asked := shows.asked held
    generalize pubsub.receive number = result at asked
    cases asked with
    | missed far => exact mirrors.set number (Option.Rel.some (shows.skip far))
    | given near waiting =>
        have something : 0 < box.waiting.length := by simp [waiting]
        exact mirrors.set number (Option.Rel.some (shows.advance near something))
    | nothing waiting =>
        rw [Mailbox.take_of_empty waiting, set_of_found found]
        exact mirrors
  · rw [deliver_receive_of_none (not_exists.mp present)]
    have nobody := mirrors.no_receiver (not_exists.mp present)
    unfold PubSub.receive
    split
    · rename_i receiver held
      exact absurd held (nobody receiver)
    · exact mirrors

theorem Mirrors.step (mirrors : pubsub.Mirrors boxes) (event : Event) :
    (pubsub.step event).Mirrors (deliver boxes event) := by
  cases event with
  | subscribe channel => exact mirrors.subscribe channel
  | unsubscribe number => exact mirrors.unsubscribe number
  | publish channel message => exact mirrors.publish channel message
  | receive number => exact mirrors.receive number

theorem Mirrors.after (mirrors : pubsub.Mirrors boxes) (events : List Event) :
    (pubsub.after events).Mirrors (events.foldl deliver boxes) := by
  induction events generalizing pubsub boxes with
  | nil => exact mirrors
  | cons event rest inductionHypothesis => exact inductionHypothesis (mirrors.step event)

end Mirroring

end PubSub

end RespServer
