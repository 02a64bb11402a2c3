import SymbolIndex.Library.Views
import SymbolIndex.Unit.Kind

/-!
# Feeds of events

A feed sends batches of events to its subscribers. Each subscriber has a queue of its own, from
which its receiver takes batches in the order in which they were sent. A subscriber whose receiver
has been dropped is noticed, and removed, when the next batch is sent.
-/

namespace SymbolIndex

/-- A copy of an event. -/
structure EventInfo where
  kind : Option UnitEventKind
  unitName : String
deriving DecidableEq

structure EventBatch where
  /-- The batch tells of the units that were there when listening began. -/
  isInitial : Bool
  events : List EventInfo
deriving DecidableEq

/-- A copy of an event. -/
def EventView.info (v : EventView) : EventInfo where
  kind := Vocabulary.ofCode? v.kind
  unitName := Text.read v.unitName

/-- A copy of the events that can be had of a notification. -/
def NotificationView.batch (n : NotificationView) : EventBatch where
  isInitial := n.isInitial
  events := n.available.map EventView.info

structure Subscriber where
  id : Nat
  /-- The receiver has not been dropped. -/
  alive : Bool := true
  /-- The batches that have been sent and not yet taken, first one first. -/
  queue : List EventBatch := []
deriving DecidableEq

structure Feed where
  /-- The number of the next subscriber. -/
  next : Nat := 0
  /-- The subscribers to which the feed sends, first one first. -/
  subscribers : List Subscriber := []

namespace Feed

/-- A new subscriber, and the feed with it. -/
def subscribe (f : Feed) : Nat × Feed :=
  (f.next, { next := f.next + 1, subscribers := f.subscribers ++ [{ id := f.next }] })

/-- Changes a subscriber. -/
def modify (f : Feed) (id : Nat) (g : Subscriber → Subscriber) : Feed :=
  { f with subscribers := f.subscribers.map fun s => if s.id = id then g s else s }

/-- Drops the receiver of a subscriber. -/
def drop (f : Feed) (id : Nat) : Feed := f.modify id fun s => { s with alive := false }

/-- Sends a batch to every subscriber whose receiver is there, and removes the others. -/
def emit (f : Feed) (batch : EventBatch) : Feed :=
  { f with
    subscribers := (f.subscribers.filter Subscriber.alive).map fun s =>
      { s with queue := s.queue ++ [batch] } }

/-- What a receiver has not yet taken. -/
def queue (f : Feed) (id : Nat) : List EventBatch :=
  ((f.subscribers.find? fun s => s.id == id).map Subscriber.queue).getD []

/-- Takes the first batch of a queue. -/
def receive (f : Feed) (id : Nat) : Option EventBatch × Feed :=
  ((f.queue id).head?, f.modify id fun s => { s with queue := s.queue.tail })

/-- Takes all batches of a queue. -/
def drain (f : Feed) (id : Nat) : List EventBatch × Feed :=
  (f.queue id, f.modify id fun s => { s with queue := [] })

/-- The number of subscribers, with those that have not yet been noticed to be gone. -/
def count (f : Feed) : Nat := f.subscribers.length

/-- The feed as it is shown when it is looked into. -/
def inspect (f : Feed) : String := "UnitEventFeed \x7b subscribers: " ++ toString f.count ++ " \x7d"

end Feed

end SymbolIndex
