import SymbolIndex.Events.Feed
import SymbolIndex.Library.Backend
import SymbolIndex.Table

/-!
# The event desk

The desk knows every handler that a library may still call, and does what the handlers do. A
handler writes each notification into a journal, or sends a copy of it to a feed. A library that
lets go of a handler never has it called again.
-/

namespace SymbolIndex

/-- What a handler does with a notification. The panic of a handler ends with the delivery, so
that it does nothing else. -/
inductive Sink where
  | journal (journal : Nat)
  | feed (feed : Nat)
deriving DecidableEq

/-- A feed at the desk. -/
structure DeskFeed where
  feed : Feed := {}
  /-- A store keeps the feed for further subscribers. -/
  kept : Bool := true

/-- One end of a feed. -/
structure Receiver where
  feed : Nat
  subscriber : Nat
deriving DecidableEq

structure Desk where
  /-- The handlers that have not been let go of. -/
  handlers : Table Sink := {}
  journals : Table (List NotificationView) := {}
  feeds : Table DeskFeed := {}

namespace Desk

/-- Does what a handler does with a notification. -/
def note (d : Desk) (n : NotificationView) : Sink → Desk
  | .journal j => { d with journals := d.journals.modify j (· ++ [n]) }
  | .feed f => { d with feeds := d.feeds.modify f fun g => { g with feed := g.feed.emit n.batch } }

/-- Does what a library calls for. -/
def call (d : Desk) : HandlerCall → Desk
  | .deliver h n =>
    match d.handlers.get? h with
    | some sink => d.note n sink
    | none => d
  | .release h => { d with handlers := d.handlers.erase h }

/-- Does what a library calls for, one call after the other. -/
def process (d : Desk) (calls : List HandlerCall) : Desk := calls.foldl call d

/-- A new handler. -/
def handler (d : Desk) (sink : Sink) : HandlerRef × Desk :=
  ((d.handlers.insert sink).1, { d with handlers := (d.handlers.insert sink).2 })

/-! ### Journals -/

/-- A new journal. -/
def journal (d : Desk) : Nat × Desk :=
  ((d.journals.insert []).1, { d with journals := (d.journals.insert []).2 })

/-- Takes everything out of a journal. -/
def takeJournal (d : Desk) (j : Nat) : List NotificationView × Desk :=
  ((d.journals.get? j).getD [], { d with journals := d.journals.modify j fun _ => [] })

/-! ### Feeds -/

/-- A new feed, kept by a store. -/
def feed (d : Desk) : Nat × Desk :=
  ((d.feeds.insert {}).1, { d with feeds := (d.feeds.insert {}).2 })

/-- Changes a feed. -/
def modifyFeed (d : Desk) (f : Nat) (g : Feed → Feed) : Desk :=
  { d with feeds := d.feeds.modify f fun k => { k with feed := g k.feed } }

/-- The store no longer keeps its feed, if it has kept one. -/
def letGo (d : Desk) : Option Nat → Desk
  | none => d
  | some f => { d with feeds := d.feeds.modify f fun k => { k with kept := false } }

/-- A new end of a feed. -/
def subscribe (d : Desk) (f : Nat) : Receiver × Desk :=
  let feed := ((d.feeds.get? f).getD {}).feed
  (⟨f, feed.subscribe.1⟩, d.modifyFeed f fun g => g.subscribe.2)

/-- Something may still be sent to the receiver: a store keeps its feed, or a handler sends to
it. -/
def connected (d : Desk) (r : Receiver) : Bool :=
  (d.feeds.get? r.feed).any DeskFeed.kept || d.handlers.values.contains (.feed r.feed)

/-- Takes the first batch that a receiver holds. -/
def receive (d : Desk) (r : Receiver) : Option EventBatch × Desk :=
  let feed := ((d.feeds.get? r.feed).getD {}).feed
  ((feed.receive r.subscriber).1, d.modifyFeed r.feed fun g => (g.receive r.subscriber).2)

/-- Takes all batches that a receiver holds. -/
def drain (d : Desk) (r : Receiver) : List EventBatch × Desk :=
  let feed := ((d.feeds.get? r.feed).getD {}).feed
  ((feed.drain r.subscriber).1, d.modifyFeed r.feed fun g => (g.drain r.subscriber).2)

/-- Drops a receiver. -/
def drop (d : Desk) (r : Receiver) : Desk := d.modifyFeed r.feed fun g => g.drop r.subscriber

end Desk

end SymbolIndex
