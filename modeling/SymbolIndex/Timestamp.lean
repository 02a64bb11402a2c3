/-!
# Modification times

A modification time is a pair of 64-bit numbers that a store holds as it was written. It denotes
an instant only if its nanoseconds are not negative and its whole seconds, with the seconds
that its nanoseconds amount to, still fit 64 bits. The instant is reached from the epoch by two
spans of time: the whole seconds, back or forth, and then the nanoseconds.
-/

namespace SymbolIndex

/-- Seconds and nanoseconds since the epoch, as stored. -/
structure Timestamp where
  seconds : Int64 := 0
  nanoseconds : Int64 := 0
deriving DecidableEq

/-- A span of time: whole seconds and nanoseconds after them. -/
structure Span where
  seconds : UInt64
  nanoseconds : Nat
  nanoseconds_lt : nanoseconds < 1000000000

namespace Span

def ofSeconds (n : UInt64) : Span := ⟨n, 0, by decide⟩

def ofNanoseconds (n : UInt64) : Span :=
  ⟨n / 1000000000, n.toNat % 1000000000, Nat.mod_lt _ (by decide)⟩

end Span

/-- A point in time: whole seconds since the epoch and nanoseconds after them. -/
structure Instant where
  seconds : Int64
  nanoseconds : Nat
  nanoseconds_lt : nanoseconds < 1000000000

namespace Instant

/-- Nanoseconds since the epoch. -/
def sinceEpoch (t : Instant) : Int := t.seconds.toInt * 1000000000 + t.nanoseconds

/-- Whether the instant lies before the epoch, and its distance from the epoch in whole seconds
and nanoseconds. -/
def fromEpoch (t : Instant) : Bool × Nat × Nat :=
  let distance := t.sinceEpoch.natAbs
  (t.sinceEpoch < 0, distance / 1000000000, distance % 1000000000)

/-- Instants are ordered by seconds and then by nanoseconds. -/
def order (a b : Instant) : Ordering :=
  (compare a.seconds b.seconds).then (compare a.nanoseconds b.nanoseconds)

def epoch : Instant := ⟨0, 0, by decide⟩

/-- The seconds of an instant, if 64 bits hold them. -/
def seconds? (n : Int) : Option Int64 :=
  if Int64.minValue.toInt ≤ n ∧ n ≤ Int64.maxValue.toInt then some (Int64.ofInt n) else none

/-- The instant that lies a span after another one. A whole second of nanoseconds is carried. -/
def later? (t : Instant) (d : Span) : Option Instant := do
  let seconds ← seconds? (t.seconds.toInt + d.seconds.toNat)
  if h : t.nanoseconds + d.nanoseconds < 1000000000 then
    some ⟨seconds, t.nanoseconds + d.nanoseconds, h⟩
  else
    have hhere := t.nanoseconds_lt
    have hspan := d.nanoseconds_lt
    let carried ← seconds? (seconds.toInt + 1)
    some ⟨carried, t.nanoseconds + d.nanoseconds - 1000000000, by omega⟩

/-- The instant that lies a span before another one. A second is borrowed if there are too few
nanoseconds. -/
def earlier? (t : Instant) (d : Span) : Option Instant := do
  let seconds ← seconds? (t.seconds.toInt - d.seconds.toNat)
  if h : d.nanoseconds ≤ t.nanoseconds then
    have hhere := t.nanoseconds_lt
    some ⟨seconds, t.nanoseconds - d.nanoseconds, by omega⟩
  else
    let borrowed ← seconds? (seconds.toInt - 1)
    some ⟨borrowed, t.nanoseconds + 1000000000 - d.nanoseconds, by omega⟩

end Instant

namespace Timestamp

def isZero (t : Timestamp) : Bool := t.seconds == 0 && t.nanoseconds == 0

/-- Timestamps are ordered by seconds and then by nanoseconds. -/
def order (a b : Timestamp) : Ordering :=
  (compare a.seconds b.seconds).then (compare a.nanoseconds b.nanoseconds)

/-- The instant at which the whole seconds of a timestamp are over. They are taken from the epoch by
their magnitude, which has 64 bits for the least integer, too. -/
def wholeSeconds? (t : Timestamp) : Option Instant :=
  let magnitude := Span.ofSeconds (UInt64.ofNat t.seconds.toInt.natAbs)
  if 0 ≤ t.seconds then Instant.epoch.later? magnitude else Instant.epoch.earlier? magnitude

/-- The instant that a timestamp denotes, if it denotes one. -/
def instant? (t : Timestamp) : Option Instant :=
  if t.nanoseconds < 0 then none
  else do
    let start ← t.wholeSeconds?
    start.later? (.ofNanoseconds t.nanoseconds.toUInt64)

/-- A number with leading zeros to nine characters. A sign stands first and is counted. -/
def nineWide (n : Int) : String :=
  let digits := toString n.natAbs
  let sign := if n < 0 then "-" else ""
  sign ++ String.ofList (List.replicate (9 - digits.length - sign.length) '0') ++ digits

def text (t : Timestamp) : String :=
  toString t.seconds.toInt ++ "." ++ nineWide t.nanoseconds.toInt

end Timestamp

end SymbolIndex
