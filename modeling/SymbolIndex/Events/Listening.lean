import SymbolIndex.Events.Desk
import SymbolIndex.Store.Basic

/-!
# Listening to a store

A store has one handler of events at most. The first subscriber makes a feed the handler, and
further subscribers share it. Installing another handler detaches the feed, so that the next
subscriber begins with a fresh one. Everything that may have the library call a handler is done
at the event desk.
-/

namespace SymbolIndex

/-- An open store, with the feed that its subscribers share. -/
structure EventStore (σ : Type) where
  store : Store σ
  feed : Option Nat := none

namespace EventStore

variable {σ : Type}

/-- An operation during which the library may call handlers. -/
def calling (f : σ → List HandlerCall × σ) (s : Desk × σ) : Desk × σ :=
  (s.1.process (f s.2).1, (f s.2).2)

/-- Makes a handler the handler of the store. -/
def install (e : EventStore σ) (sink : Sink) (s : Desk × σ) : Desk × σ :=
  let (h, desk) := s.1.handler sink
  calling (e.store.library.backend.setHandler e.store.ref h) (desk, s.2)

/-- Installs a handler. A feed is detached. -/
def setHandler (e : EventStore σ) (sink : Sink) : Access (Desk × σ) (EventStore σ) := fun s =>
  (.ok { e with feed := none }, e.install sink (s.1.letGo e.feed, s.2))

/-- The feed of the store, which is made and installed if there is none. -/
def ownFeed (e : EventStore σ) (s : Desk × σ) : Nat × Desk × σ :=
  match e.feed with
  | some f => (f, s)
  | none =>
    let (f, desk) := s.1.feed
    (f, e.install (.feed f) (desk, s.2))

/-- A receiver of all batches from now on. -/
def subscribe (e : EventStore σ) : Access (Desk × σ) (Receiver × EventStore σ) := fun s =>
  let (f, desk, library) := e.ownFeed s
  let (receiver, desk) := desk.subscribe f
  (.ok (receiver, { e with feed := some f }), desk, library)

/-- Begins to listen. The first notification is awaited or left to the background. -/
def start (e : EventStore σ) (wait : Bool) : Access (Desk × σ) Unit := fun s =>
  match e.store.library.backend.startListening e.store.ref wait s.2 with
  | (answer, library) =>
    let desk := s.1.process answer.calls
    let finish : Access σ Unit :=
      if answer.started then e.store.library.releaseError answer.error
      else e.store.library.failure "store_start_unit_event_listening" answer.error
    match finish library with
    | (result, library) => (result, desk, library)

/-- Ends listening. -/
def stop (e : EventStore σ) : Desk × σ → Desk × σ :=
  calling (e.store.library.backend.stopListening e.store.ref)

/-- Removes a unit from the store. -/
def discardUnit (e : EventStore σ) (unit : String) : Access (Desk × σ) Unit := do
  let octets ← Access.terminated unit
  .change (calling (e.store.library.backend.discardUnit e.store.ref octets))

/-- What the library does in the background. -/
def background (e : EventStore σ) : Desk × σ → Desk × σ :=
  calling (e.store.library.backend.background e.store.ref)

/-- Closes the store. -/
def close (e : EventStore σ) (s : Desk × σ) : Desk × σ :=
  let (desk, library) := calling (e.store.library.backend.disposeStore e.store.ref) s
  (desk.letGo e.feed, library)

end EventStore

end SymbolIndex
