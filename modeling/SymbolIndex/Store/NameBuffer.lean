import SymbolIndex.Library.Access

/-!
# Names of unknown length

A library writes a name into a room that it is given, as far as the name fits, and answers the
name's length. A name that does not fit with an end mark behind it is asked for once more, with
enough room for the length that was answered. So no name is cut off. After each answer that is too
long the room is made larger, and the panic of a size that no room can have ends the access.
-/

namespace SymbolIndex

open Text (Octets)

/-- A room after its beginning has been written to. -/
def overlay (written room : Octets) : Octets :=
  written.take room.length ++ room.drop written.length

/-- A room extended with zeros to the given size. -/
def extend (room : Octets) (size : Nat) : Octets :=
  room ++ List.replicate (size - room.length) 0

/-- The size of the first room. -/
def firstRoom : Nat := 256

/-- The size of the largest room. Places in a room are counted by signed numbers of 64 bits. -/
def largestRoom : Nat := UInt64.size / 2 - 1

/-- The size of the room for a name of the given length with an end mark behind it. The size itself
is counted by numbers of 64 bits without a sign. -/
def roomFor (length : UInt64) : Except Halt Nat :=
  let size := length.toNat + 1
  if size = UInt64.size then .error (.panic Version.Overflow.addition.message)
  else if largestRoom < size then .error (.panic "capacity overflow")
  else .ok size

namespace Access

variable {σ : Type}

/-- Asks for a name, a given number of times at most. -/
def askName (operation : String) (ask : Nat → σ → NameAnswer × σ) :
    Nat → Octets → Access σ String
  | 0, _ => .fail (.breach operation .nameGrew)
  | n + 1, room => fun s =>
    match ask room.length s with
    | (answer, s) =>
      let room := overlay answer.written room
      let length := answer.length.toNat
      if length < room.length then (.ok (Text.decode (room.take length)), s)
      else
        match roomFor answer.length with
        | .error h => (.error h, s)
        | .ok size => askName operation ask n (extend room size) s

/-- Asks for a name twice at most. -/
def name (operation : String) (ask : Nat → σ → NameAnswer × σ) : Access σ String :=
  askName operation ask 2 (extend [] firstRoom)

end Access

end SymbolIndex
