import SymbolIndex.Error
import SymbolIndex.Library.Basic

/-!
# Accesses

An access uses a library. It may change the library's state, and it ends with a value, with an
error or with the panic of a callback. What it has changed before an error stays changed.

An operation of a library that fails hands out an error object. The object is read once and then
disposed of. A failure without an error object is itself an error, and an error object that comes
with a success is disposed of unused.
-/

namespace SymbolIndex

open Text (Octets)

/-- A use of something with a state of type `σ`. -/
def Access (σ α : Type) := σ → Except Halt α × σ

namespace Access

variable {σ α β : Type}

def pure (a : α) : Access σ α := fun s => (.ok a, s)

def bind (m : Access σ α) (f : α → Access σ β) : Access σ β := fun s =>
  match m s with
  | (.ok a, s) => f a s
  | (.error h, s) => (.error h, s)

instance : Monad (Access σ) where
  pure := pure
  bind := bind

def halt (h : Halt) : Access σ α := fun s => (.error h, s)

def fail (e : Error) : Access σ α := halt (.error e)

/-- A change of state that ends with a value. -/
def step (f : σ → α × σ) : Access σ α := fun s => (.ok (f s).1, (f s).2)

/-- A change of state. -/
def change (f : σ → σ) : Access σ Unit := fun s => (.ok (), f s)

/-- How an access ends, as a value. -/
def attempt (m : Access σ α) : Access σ (Except Halt α) := fun s => (.ok (m s).1, (m s).2)

/-- The octets of a text that is to end with a zero. A text with a zero of its own is refused. -/
def terminated (text : String) : Access σ Octets :=
  match Text.terminated? text with
  | some octets => pure octets
  | none => fail (.badArgument (.interiorZero (Text.quoted text)))

/-- The octets of a path. In the refusal a path is not quoted. -/
def terminatedPath (path : String) : Access σ Octets :=
  match Text.terminated? path with
  | some octets => pure octets
  | none => fail (.badArgument (.interiorZero path))

end Access

namespace Library

variable {σ : Type}

/-- Reads the description of an error object and disposes of the object. -/
def takeError (l : Library σ) (e : ErrorRef) (s : σ) : String × σ :=
  match l.backend.describeError e s with
  | (description, s) => (Text.readTerminated description, l.backend.disposeError e s)

/-- Disposes of the error object of an operation that has succeeded, if there is one. -/
def releaseError (l : Library σ) : Option ErrorRef → Access σ Unit
  | some e => .change fun s => (l.takeError e s).2
  | none => .pure ()

/-- The error of an operation that has failed, with an error object or without one. -/
def failure {α : Type} (l : Library σ) (operation : String) : Option ErrorRef → Access σ α
  | some e => fun s =>
    match l.takeError e s with
    | (description, s) => (.error (.error (.store ⟨operation, description⟩)), s)
  | none => .fail (.breach operation .noErrorObject)

/-- The object that an operation has created, or its error. -/
def created (l : Library σ) (operation : String) : Created → Access σ Nat
  | ⟨some ref, e⟩ => .bind (l.releaseError e) fun _ => .pure ref
  | ⟨none, e⟩ => l.failure operation e

end Library

end SymbolIndex
