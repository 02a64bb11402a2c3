import SymbolIndex.Archive.Backend
import SymbolIndex.Faults.Backend
import SymbolIndex.Library.InProcess
import SymbolIndex.Proofs.Answers.Basic
import SymbolIndex.Store.NameBuffer

/-!
# Names of unknown length

A name is asked for once, with room for 256 octets, and once more if it is too long for that, with
room for the length that has been answered and an end mark. Nothing is assumed of the library: it
may answer any length of 64 bits, and another one the second time. A name that is still too long
then is an error, and a length for which there can be no room is a panic. So a library that writes
as much of one name as there is room for is asked until it has written all of it.
-/

namespace SymbolIndex

open Text (Octets)

variable {σ : Type}

/-! ### Rooms -/

theorem length_overlay (written room : Octets) :
  (overlay written room).length = room.length
  := by
  simp only [overlay, List.length_append, List.length_take, List.length_drop]
  omega

theorem length_extend {room : Octets} {size : Nat} (h : room.length ≤ size) :
  (extend room size).length = size
  := by
  rw [extend, List.length_append, List.length_replicate]
  omega

theorem overlay_zeros (written : Octets) (size : Nat) :
  overlay written (List.replicate size 0)
    = written.take size ++ List.replicate (size - written.length) 0
  := by
  rw [overlay, List.length_replicate, List.drop_replicate]

/-- What stood in a room before stays behind what is written to the larger one. -/
theorem overlay_extend (written : Octets) {room : Octets} {size : Nat} (h : room.length ≤ size) :
  overlay written (extend room size)
    = written.take size ++ (room ++ List.replicate (size - room.length) 0).drop written.length
  := by
  rw [overlay, length_extend h, extend]

/-- A name that fits into a room with an end mark behind it is there in full. -/
theorem take_written {name rest : Octets} {size : Nat} (h : name.length < size) :
  ((name.take (size - 1) ++ [0]).take size ++ rest).take name.length = name
  := by
  have hname : name.take (size - 1) = name := List.take_of_length_le (by omega)
  have hwritten : (name ++ [0]).take size = name ++ [0] := by
    apply List.take_of_length_le
    rw [List.length_append, List.length_singleton]
    exact h
  rw [hname, hwritten, List.append_assoc, List.take_left]

/-- There is a room for a name exactly if the name is shorter than the largest room. Otherwise the
attempt to make the room panics. -/
theorem roomFor_cases (length : UInt64) :
  (length.toNat < 2 ^ 63 - 1 ∧ roomFor length = .ok (length.toNat + 1))
    ∨ (2 ^ 63 - 1 ≤ length.toNat ∧ ∃ message, roomFor length = .error (.panic message))
  := by
  rw [roomFor]
  split
  case isTrue hoverflow =>
      right
      rw [UInt64.size] at hoverflow
      exact ⟨by omega, _, rfl⟩
  case isFalse =>
      split
      case isTrue hlarge =>
          right
          rw [largestRoom, UInt64.size] at hlarge
          exact ⟨by omega, _, rfl⟩
      case isFalse hfits =>
          left
          rw [largestRoom, UInt64.size] at hfits
          exact ⟨by omega, rfl⟩

theorem roomFor_of_lt {length : UInt64} (h : length.toNat < 2 ^ 63 - 1) :
  roomFor length = .ok (length.toNat + 1)
  := by
  obtain ⟨-, hroom⟩ | ⟨hlarge, -⟩ := roomFor_cases length
  · exact hroom
  · omega

theorem roomFor_of_le {length : UInt64} (h : 2 ^ 63 - 1 ≤ length.toNat) :
  ∃ message, roomFor length = .error (.panic message)
  := by
  obtain ⟨hsmall, -⟩ | ⟨-, hpanic⟩ := roomFor_cases length
  · omega
  · exact hpanic

/-- The length of a name for which there is a room can be told. -/
theorem toNat_ofNatClamp_of_room {n : Nat} (h : (UInt64.ofNatClamp n).toNat < 2 ^ 63 - 1) :
  (UInt64.ofNatClamp n).toNat = n
  := by
  rcases Nat.lt_or_ge n UInt64.size with hn | hn
  · exact UInt64.toNat_ofNatClamp_of_lt hn
  · rw [UInt64.toNat_ofNatClamp_of_le hn, UInt64.size] at h
    omega

/-- Whether there is a room for a name, by the length of the name. -/
theorem roomFor_ofNatClamp (n : Nat) :
  roomFor (.ofNatClamp n)
    = if n < 2 ^ 63 - 1 then .ok (n + 1)
      else if n < 2 ^ 64 - 1 then .error (.panic "capacity overflow")
      else .error (.panic "attempt to add with overflow")
  := by
  rcases Nat.lt_or_ge n UInt64.size with hn | hn
  · have hlength := UInt64.toNat_ofNatClamp_of_lt hn
    rw [UInt64.size] at hn
    simp only [roomFor, hlength, largestRoom, UInt64.size]
    by_cases hfits : n < 2 ^ 63 - 1
    · rw [if_neg (by omega), if_neg (by omega), if_pos hfits]
    · rw [if_neg hfits]
      by_cases hlast : n < 2 ^ 64 - 1
      · rw [if_neg (by omega), if_pos (by omega), if_pos hlast]
      · rw [if_pos (by omega), if_neg hlast]
        rfl
  · have hlength := UInt64.toNat_ofNatClamp_of_le hn
    rw [UInt64.size] at hn
    rw [roomFor, hlength, if_pos (by rw [UInt64.size]), if_neg (by omega), if_neg (by omega)]
    rfl

/-! ### Asking twice -/

namespace Access

/-- What is told of a name that is asked for: the whole name, if there can be a room for it. A
longer name would fit into no memory. -/
def told (name : String) : Except Halt String :=
  let length := (Text.octets name).length
  if length < 2 ^ 63 - 1 then .ok name
  else if length < 2 ^ 64 - 1 then .error (.panic "capacity overflow")
  else .error (.panic "attempt to add with overflow")

/-- A name is told if there is a room for it. -/
theorem told_eq (name : String) :
  told name = (roomFor (.ofNatClamp (Text.octets name).length)).map fun _ => name
  := by
  simp only [told, roomFor_ofNatClamp]
  split
  · rfl
  · split <;> rfl

/-- What is made of a name that is told is made of the name. -/
theorem told_bind {α : Type} (name : String) (f : String → α) :
  (told name >>= fun name => .ok (f name)) = (told name).map fun _ => f name
  := by
  simp only [told]
  split
  · rfl
  · split <;> rfl

theorem told_map_bind {α β : Type} (name : String) (a : α) (f : α → β) :
  ((told name).map (fun _ => a) >>= fun a => .ok (f a)) = (told name).map fun _ => f a
  := by
  cases told name <;> rfl

theorem told_ne_error (name : String) (e : Error) :
  told name ≠ .error (.error e)
  := by
  simp only [told]
  split
  · nofun
  · split <;> nofun

variable {operation : String} {ask : Nat → σ → NameAnswer × σ}

section

variable {room : Octets} {s : σ} (tries : Nat)

/-- A name for which there is room is had at once. -/
theorem askName_of_fits (h : (ask room.length s).1.length.toNat < room.length) :
  let answer := (ask room.length s).1
  askName operation ask (tries + 1) room s
    = (.ok (Text.decode ((overlay answer.written room).take answer.length.toNat)),
        (ask room.length s).2)
  := by
  simp only [askName, length_overlay, if_pos h]

/-- A name for which there is no room is asked for again, if there can be room for it. -/
theorem askName_of_long (h : ¬ (ask room.length s).1.length.toNat < room.length) :
  let answer := (ask room.length s).1
  askName operation ask (tries + 1) room s
    = match roomFor answer.length with
      | .error h => (.error h, (ask room.length s).2)
      | .ok size =>
        askName operation ask tries (extend (overlay answer.written room) size)
          (ask room.length s).2
  := by
  intro answer
  have hlong : ¬ answer.length.toNat < (overlay answer.written room).length := by
    rwa [length_overlay]
  exact if_neg hlong

end

/-- How a name is had: from the first room, from the second one, or not at all. -/
theorem name_eq (s : σ) :
  let first := ask 256 s
  let length := first.1.length.toNat
  let second := ask (length + 1) first.2
  let room := first.1.written.take 256 ++ List.replicate (256 - first.1.written.length) 0
  let larger := second.1.written.take (length + 1)
    ++ (room ++ List.replicate (length + 1 - 256) 0).drop second.1.written.length
  Access.name operation ask s
    = if length < 256 then (.ok (Text.decode (room.take length)), first.2)
      else
        match roomFor first.1.length with
        | .error h => (.error h, first.2)
        | .ok _ =>
          if second.1.length.toNat ≤ length then
            (.ok (Text.decode (larger.take second.1.length.toNat)), second.2)
          else
            match roomFor second.1.length with
            | .error h => (.error h, second.2)
            | .ok _ => (.error (.error (.breach operation .nameGrew)), second.2)
  := by
  intro first length second room larger
  have hsize : (extend [] firstRoom).length = 256 := length_extend (Nat.zero_le _)
  have hroom : overlay first.1.written (extend [] firstRoom) = room :=
    overlay_zeros first.1.written 256
  rw [Access.name]
  split
  case isTrue hfits =>
      rw [askName_of_fits 1 (by rwa [hsize]), hsize, hroom]
  case isFalse hlong =>
      have hasked : askName operation ask 2 (extend [] firstRoom) s
          = match roomFor first.1.length with
            | .error h => (.error h, first.2)
            | .ok size => askName operation ask 1 (extend room size) first.2 := by
        rw [askName_of_long 1 (by rwa [hsize]), hsize, hroom]
      rw [hasked]
      obtain ⟨-, hlength⟩ | ⟨-, message, hpanic⟩ := roomFor_cases first.1.length
      · have hroomSize : room.length = 256 := by rw [← hroom, length_overlay, hsize]
        have hgrows : room.length ≤ length + 1 := by omega
        have hlarger : overlay second.1.written (extend room (length + 1)) = larger := by
          rw [overlay_extend second.1.written hgrows, hroomSize]
        simp only [hlength]
        split
        case isTrue hfits =>
            rw [askName_of_fits 0 (by rw [length_extend hgrows]; exact Nat.lt_succ_of_le hfits),
              length_extend hgrows, hlarger]
        case isFalse hgrown =>
            rw [askName_of_long 0 (by
                rw [length_extend hgrows]; exact fun h => hgrown (Nat.le_of_lt_succ h)),
              length_extend hgrows]
            rfl
      · simp only [hpanic]

/-- The library writes as much of a name as there is room for, with an end mark behind it, and
answers the length of the whole name. -/
def Writes (ask : Nat → σ → NameAnswer × σ) (name : Octets) : Prop :=
  ∀ room s, 0 < room →
    (ask room s).1 = ⟨.ofNatClamp name.length, name.take (room - 1) ++ [0]⟩

/-- The name is had in full, however long it is, if there can be a room for it. -/
theorem name_of_writes {name : Octets} (h : Writes ask name) (s : σ) :
  (Access.name operation ask s).1
    = (roomFor (.ofNatClamp name.length)).map fun _ => Text.decode name
  := by
  simp only [name_eq, h 256 s (by omega),
    h ((UInt64.ofNatClamp name.length).toNat + 1) _ (by omega)]
  obtain ⟨hfits, hsize⟩ | ⟨hlarge, message, hpanic⟩ :=
    roomFor_cases (.ofNatClamp name.length)
  · simp only [hsize, toNat_ofNatClamp_of_room hfits]
    split
    case isTrue hshort =>
        rw [take_written hshort]
        rfl
    case isFalse =>
        rw [if_pos (Nat.le_refl _), take_written (Nat.lt_succ_self _)]
        rfl
  · rw [if_neg (by omega), hpanic]
    rfl

theorem name_of_writes_of_lt {name : Octets} (h : Writes ask name) (s : σ)
    (hlength : name.length < 2 ^ 63 - 1) :
  (Access.name operation ask s).1 = .ok (Text.decode name)
  := by
  rw [name_of_writes h, roomFor_ofNatClamp, if_pos hlength]
  rfl

/-- A name is never had in part. -/
theorem eq_of_name_of_writes {name : Octets} {s : σ} {text : String} (h : Writes ask name)
    (htext : (Access.name operation ask s).1 = .ok text) :
  text = Text.decode name
  := by
  rw [name_of_writes h] at htext
  cases hroom : roomFor (.ofNatClamp name.length) with
  | error h =>
      rw [hroom] at htext
      cases htext
  | ok size =>
      rw [hroom] at htext
      cases htext
      rfl

end Access

/-! ### Calls of the library -/

/-- A call by which the name of a unit is asked for. -/
structure NameCall where
  store : StoreRef
  path : Octets
  /-- The size of the room for the name. -/
  room : Nat

/-- A question for a name, with a note of the call. -/
def NameCall.noting (call : Nat → NameCall) (ask : Nat → σ → NameAnswer × σ) (room : Nat)
    (s : σ × List NameCall) : NameAnswer × σ × List NameCall :=
  ((ask room s.1).1, (ask room s.1).2, s.2 ++ [call room])

/-- The note makes no difference to how a name is had. -/
theorem Access.askName_noting (operation : String) (call : Nat → NameCall)
    (ask : Nat → σ → NameAnswer × σ) (tries : Nat) (room : Octets) (s : σ × List NameCall) :
  let noted := askName operation (NameCall.noting call ask) tries room s
  askName operation ask tries room s.1 = (noted.1, noted.2.1)
  := by
  induction tries generalizing room s with
  | zero => rfl
  | succ tries ih =>
      by_cases hfits : (ask room.length s.1).1.length.toNat < room.length
      · have hnoted : (NameCall.noting call ask room.length s).1.length.toNat < room.length := hfits
        rw [askName_of_fits tries hfits, askName_of_fits tries hnoted]
        rfl
      · have hnoted : ¬ (NameCall.noting call ask room.length s).1.length.toNat < room.length :=
          hfits
        rw [askName_of_long tries hfits, askName_of_long tries hnoted]
        have hroom : roomFor (NameCall.noting call ask room.length s).1.length
            = roomFor (ask room.length s.1).1.length := rfl
        simp only [hroom]
        cases roomFor (ask room.length s.1).1.length with
        | error h => rfl
        | ok size => exact ih _ (NameCall.noting call ask room.length s).2

/-- The library with a note of each call by which a name is asked for. -/
def Backend.notingNames (b : Backend σ) : Backend (σ × List NameCall) :=
  { b.beside with
    unitName := fun store path => NameCall.noting (NameCall.mk store path) (b.unitName store path) }

def Store.notingNames (store : Store σ) : Store (σ × List NameCall) :=
  { store with
    library := { store.library with backend := store.library.backend.notingNames } }

namespace Store

variable (store : Store σ) (outputPath : String)

theorem unitName_eq :
  store.unitName outputPath
    = if '\x00' ∈ outputPath.toList then .fail (.badArgument (.interiorZero outputPath))
      else Access.name "store_get_unit_name_from_output_path"
        (store.library.backend.unitName store.ref (Text.octets outputPath))
  := by
  rw [unitName, Access.terminatedPath_eq]
  split
  case isTrue => rfl
  case isFalse =>
      funext s
      simp only [bind, Access.bind, Access.pure]

/-- Whatever a library does, it is asked for the name of a unit once or twice. The first room has
256 octets, and the second one is as large as the first length demands; if no room can be as large
as that, the library is not asked again. The name is what stands in the room up to the length that
has been answered last, if that is shorter than the room. A library that writes as much of one name
as there is room for is told to have written all of it, if a room can hold the name, and is never
told to have written anything else. -/
theorem unitName_asked (s : σ) :
  let ask := store.library.backend.unitName store.ref (Text.octets outputPath)
  let call (room : Nat) : NameCall := ⟨store.ref, Text.octets outputPath, room⟩
  let first := ask 256 s
  let length := first.1.length.toNat
  let second := ask (length + 1) first.2
  let length' := second.1.length.toNat
  let room := first.1.written.take 256 ++ List.replicate (256 - first.1.written.length) 0
  let larger := second.1.written.take (length + 1)
    ++ (room ++ List.replicate (length + 1 - 256) 0).drop second.1.written.length
  let noted := store.notingNames.unitName outputPath (s, [])
  store.unitName outputPath s = (noted.1, noted.2.1)
    ∧ ('\x00' ∈ outputPath.toList →
        noted = (.error (.error (.badArgument (.interiorZero outputPath))), s, []))
    ∧ ('\x00' ∉ outputPath.toList →
        (length < 256 → noted = (.ok (Text.decode (room.take length)), first.2, [call 256]))
        ∧ (2 ^ 63 - 1 ≤ length →
            ∃ message, noted = (.error (.panic message), first.2, [call 256]))
        ∧ (256 ≤ length → length < 2 ^ 63 - 1 →
            noted.2 = (second.2, [call 256, call (length + 1)])
            ∧ (length' ≤ length → noted.1 = .ok (Text.decode (larger.take length')))
            ∧ (length < length' → length' < 2 ^ 63 - 1 → noted.1
                = .error (.error (.breach "store_get_unit_name_from_output_path" .nameGrew))))
        ∧ ∀ name, Access.Writes ask name →
            (name.length < 2 ^ 63 - 1 → (store.unitName outputPath s).1 = .ok (Text.decode name))
            ∧ ∀ text, (store.unitName outputPath s).1 = .ok text → text = Text.decode name)
  := by
  intro ask call first length second length' room larger noted
  have hnoted : noted = _ := congrFun (store.notingNames.unitName_eq outputPath) (s, [])
  have hask : store.notingNames.library.backend.unitName store.notingNames.ref
      (Text.octets outputPath) = NameCall.noting call ask := rfl
  rw [hask] at hnoted
  refine ⟨?_, fun hzero => ?_, fun hzero => ?_⟩
  · rw [hnoted, unitName_eq]
    split
    case isTrue => rfl
    case isFalse =>
        rw [Access.name, Access.name]
        exact Access.askName_noting _ call ask 2 (extend [] firstRoom) (s, [])
  · rw [hnoted, if_pos hzero]
    rfl
  · rw [if_neg hzero, Access.name_eq] at hnoted
    change noted = if length < 256 then (.ok (Text.decode (room.take length)), first.2, [call 256])
      else
        match roomFor first.1.length with
        | .error h => (.error h, first.2, [call 256])
        | .ok _ =>
          if length' ≤ length then
            (.ok (Text.decode (larger.take length')), second.2, [call 256, call (length + 1)])
          else
            match roomFor second.1.length with
            | .error h => (.error h, second.2, [call 256, call (length + 1)])
            | .ok _ => (.error (.error (.breach "store_get_unit_name_from_output_path" .nameGrew)),
                second.2, [call 256, call (length + 1)]) at hnoted
    refine ⟨fun hshort => ?_, fun hlarge => ?_, fun hlong hroom => ?_, fun name hwrites => ?_⟩
    · rw [hnoted, if_pos hshort]
    · obtain ⟨message, hpanic⟩ := roomFor_of_le hlarge
      rw [if_neg (by omega), hpanic] at hnoted
      exact ⟨message, hnoted⟩
    · simp only [if_neg (Nat.not_lt.mpr hlong), roomFor_of_lt hroom] at hnoted
      refine ⟨?_, fun hfits => ?_, fun hgrown hroom' => ?_⟩
      · rw [hnoted]
        split
        · rfl
        · split <;> rfl
      · rw [hnoted, if_pos hfits]
      · rw [hnoted, if_neg (Nat.not_le.mpr hgrown), roomFor_of_lt hroom']
    · rw [unitName_eq, if_neg hzero]
      exact ⟨Access.name_of_writes_of_lt hwrites s, fun _ => Access.eq_of_name_of_writes hwrites⟩

/-- One octet more or less than there is room for at first. -/
theorem unitName_asked_boundary :
  let name (length : Nat) : Octets := List.replicate length 0x61
  let answers (length room : Nat) (a : Archive) : NameAnswer × Archive :=
    (⟨.ofNatClamp length, (name length).take (room - 1) ++ [0]⟩, a)
  let store (length : Nat) : Store Archive := {
    library := {
      identity := 0
      path := ""
      version := .required
      formatVersion := 0
      hasClosures := true
      convention := .closure
      backend := { Archive.backend with unitName := fun _ _ => answers length } }
    ref := 0
    path := "" }
  let answer (length : Nat) := ((store length).unitName "out.o" {}).1
  let rooms (length : Nat) :=
    ((store length).notingNames.unitName "out.o" ({}, [])).2.2.map NameCall.room
  answer 255 = .ok (Text.decode (name 255)) ∧ rooms 255 = [256]
    ∧ answer 256 = .ok (Text.decode (name 256)) ∧ rooms 256 = [256, 257]
    ∧ answer 257 = .ok (Text.decode (name 257)) ∧ rooms 257 = [256, 258]
  := by
  intro name answers store answer rooms
  have hzero : '\x00' ∉ "out.o".toList := by decide
  have hasked (length : Nat) := ((store length).unitName_asked "out.o" {}).2.2 hzero
  have hanswer (length : Nat) (hlength : length < 2 ^ 63 - 1) :
      answer length = .ok (Text.decode (name length)) := by
    have hwrites : Access.Writes ((store length).library.backend.unitName (store length).ref
        (Text.octets "out.o")) (name length) := by
      intro room a _
      simp only [name, List.length_replicate]
      rfl
    exact ((hasked length).2.2.2 (name length) hwrites).1 (by rwa [List.length_replicate])
  have hshort : rooms 255 = [256] := congrArg (fun noted => noted.2.2.map NameCall.room)
    ((hasked 255).1 (by decide))
  have hlong (length : Nat) (h : 256 ≤ (UInt64.ofNatClamp length).toNat)
      (h' : (UInt64.ofNatClamp length).toNat < 2 ^ 63 - 1) :
      rooms length = [256, (UInt64.ofNatClamp length).toNat + 1] :=
    congrArg (fun noted => noted.2.map NameCall.room) ((hasked length).2.2.1 h h').1
  exact ⟨hanswer 255 (by decide), hshort, hanswer 256 (by decide), hlong 256 (by decide) (by decide),
    hanswer 257 (by decide), hlong 257 (by decide) (by decide)⟩

/-- A library that answers a length for which there can be no room is not asked again, although the
size of the room is still a number of 64 bits; and the access panics, too, if the second length is
one. -/
theorem unitName_unroomed :
  let store (lengths : List Nat) : Store (Archive × FaultState) := {
    library := {
      identity := 0
      path := InProcessLibrary.path
      version := .required
      formatVersion := 13
      hasClosures := true
      convention := .closure
      backend := Archive.backend.beside.withFaults { name := some { lengths, fill := [0x61] } } }
    ref := 0
    path := "/main" }
  let noted (lengths : List Nat) :=
    (store lengths).notingNames.unitName "out.o" (({}, {}), [])
  '\x00' ∉ "out.o".toList
    ∧ (noted [2 ^ 63 - 1, 5]).1 = .error (.panic "capacity overflow")
    ∧ (noted [2 ^ 63 - 1, 5]).2.2.map NameCall.room = [256]
    ∧ (noted [300, 2 ^ 63 - 1]).1 = .error (.panic "capacity overflow")
    ∧ (noted [300, 2 ^ 63 - 1]).2.2.map NameCall.room = [256, 301]
  := by
  intro store noted
  have hzero : '\x00' ∉ "out.o".toList := by decide
  have hnoted (lengths : List Nat) : noted lengths = _ :=
    congrFun ((store lengths).notingNames.unitName_eq "out.o") (({}, {}), [])
  simp only [if_neg hzero, Access.name_eq] at hnoted
  refine ⟨hzero, ?_, ?_, ?_, ?_⟩
  all_goals
    rw [hnoted]
    rfl

end Store

end SymbolIndex
