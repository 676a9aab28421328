import Std.Data.ExtTreeMap
import RespServer.Bytes

/-!
Contract: channels, their messages and their receivers.

Owns:
- the registry of channels by name;
- subscribing, dropping a receiver, publishing and receiving;
- how far a receiver may fall behind.

Does not own: commands on channels (`Request.run`).

A channel that was removed and subscribed to again is a new channel with a feed of its own.
-/

namespace RespServer

structure Receiver where
  feed : Nat
  next : Nat
deriving DecidableEq, Repr

/-- What asking for the next message yields. -/
inductive Reception where
  | message (octets : Bytes)
  /-- There is no new message yet. -/
  | empty
  /-- So many messages were lost; the next is the oldest that is kept. -/
  | lagged (missed : Nat)
  /-- The channel is gone and there is no message left. -/
  | closed
  | gone
deriving DecidableEq, Repr

/-- The channels of the server. -/
structure PubSub where
  channels : Std.ExtTreeMap String Nat
  /-- All messages of each feed, the first first. -/
  feeds : Array (Array Bytes)
  /-- All receivers in the order of their subscription; none stands for a dropped one. -/
  receivers : Array (Option Receiver)

namespace PubSub

/-- How many messages a channel keeps for its receivers. -/
def capacity : Nat :=
  1024

def empty : PubSub :=
  ⟨∅, #[], #[]⟩

def messages (pubsub : PubSub) (feed : Nat) : Array Bytes :=
  pubsub.feeds[feed]?.getD #[]

def receiverCount (pubsub : PubSub) (feed : Nat) : Nat :=
  pubsub.receivers.countP fun receiver => receiver.any fun receiver => receiver.feed = feed

def isOpen (pubsub : PubSub) (feed : Nat) : Bool :=
  pubsub.channels.toList.any fun channel => channel.2 = feed

/-- Adds a receiver of the messages still to come to a channel, which is created if it is missing.
Returns the number of the receiver. -/
def subscribe (pubsub : PubSub) (channel : String) : Nat × PubSub :=
  let (feed, pubsub) :=
    match pubsub.channels[channel]? with
    | some feed => (feed, pubsub)
    | none =>
        let feed := pubsub.feeds.size
        (feed, { pubsub with
          channels := pubsub.channels.insert channel feed
          feeds := pubsub.feeds.push #[] })
  let receiver : Receiver := ⟨feed, (pubsub.messages feed).size⟩
  (pubsub.receivers.size, { pubsub with receivers := pubsub.receivers.push (some receiver) })

/-- Drops a receiver. Returns whether there was one. -/
def unsubscribe (pubsub : PubSub) (receiver : Nat) : Bool × PubSub :=
  match pubsub.receivers[receiver]? with
  | some (some _) =>
      (true, { pubsub with receivers := pubsub.receivers.setIfInBounds receiver none })
  | _ => (false, pubsub)

/-- Publishes a message to a channel. Returns how many receivers it has; a channel without any is
removed, and the message is lost. -/
def publish (pubsub : PubSub) (channel : String) (message : Bytes) : Nat × PubSub :=
  match pubsub.channels[channel]? with
  | none => (0, pubsub)
  | some feed =>
      let count := pubsub.receiverCount feed
      if count = 0 then (0, { pubsub with channels := pubsub.channels.erase channel })
      else (count, { pubsub with feeds := pubsub.feeds.modify feed fun log => log.push message })

def receive (pubsub : PubSub) (number : Nat) : Reception × PubSub :=
  match pubsub.receivers[number]? with
  | some (some receiver) =>
      let log := pubsub.messages receiver.feed
      let oldest := log.size - capacity
      let goTo (next : Nat) : PubSub :=
        { pubsub with
          receivers := pubsub.receivers.setIfInBounds number (some { receiver with next := next }) }
      if receiver.next < oldest then (.lagged (oldest - receiver.next), goTo oldest)
      else match log[receiver.next]? with
        | some message => (.message message, goTo (receiver.next + 1))
        | none => (if pubsub.isOpen receiver.feed then .empty else .closed, pubsub)
  | _ => (.gone, pubsub)

/-- The names of the channels with a receiver, ascending. The channels are kept in this order, so
that nothing needs sorting. -/
def activeChannels (pubsub : PubSub) : List String :=
  (pubsub.channels.toList.filter fun channel => 0 < pubsub.receiverCount channel.2).map Prod.fst

end PubSub

end RespServer
