import SymbolIndex.Proofs.Answers.Deeds
import SymbolIndex.Proofs.Answers.Traversals
import SymbolIndex.Proofs.Events.Calls

/-!
# Calls of a client

A client goes on by calls, each of which is answered: by operations, and by the beginnings of
traversals and searches.
-/

namespace SymbolIndex

variable {α β : Type} {s : Scene}

/-! ### Calls and their answers -/

/-- A call of a client: an operation, or the beginning of a traversal or of a search. What is done
with the items is done in further calls. -/
inductive Call : Type 1 where
  | deed (deed : Deed)
  | handOut {α : Type} (t : Reading α)
  | search (record : RecordRef)

/-- What comes of a call. A traversal or a search comes with what the library is going to do. -/
inductive Call.Answer : Type 1 where
  | given (given : Except Halt Given)
  | play {α : Type} (play : Option (Except Error (Play α)))
  | searchPlay (play : Option (SearchPlay SymbolView))

namespace Reading

/-- What the library is going to do in a traversal, if it is not refused. -/
def play? (t : Reading α) (s : Scene) : Option (Except Error (Play α)) :=
  (t.listing? s.1).map fun answer =>
    answer.map fun listing => (listing.start listing.convention s.2).1

/-- The scene in which the first item is handed out. -/
def after (t : Reading α) (s : Scene) : Scene :=
  match t.listing? s.1 with
  | none => s
  | some (.error _) => (t.begun s.1, s.2)
  | some (.ok listing) => (t.begun s.1, (listing.start listing.convention s.2).2)

end Reading

namespace Call

def answer : Call → Scene → Answer
  | deed d, s => .given (d.given s)
  | handOut t, s => .play (t.play? s)
  | search record, s =>
    .searchPlay ((s.1.record? record).map fun r =>
      (r.library.backend.search r.library.convention r.ref s.2).1)

def run : Call → Scene → Scene
  | deed d, s => (d.run s).2
  | handOut t, s => t.after s
  | search record, s =>
    match s.1.record? record with
    | none => s
    | some r =>
      (s.1.note ⟨r.store.directory, false⟩,
        (r.library.backend.search r.library.convention r.ref s.2).2)

end Call

namespace Scene

/-- The scene after some calls. -/
def called (s : Scene) (calls : List Call) : Scene := calls.foldl (fun s c => c.run s) s

theorem called_append (s : Scene) (calls more : List Call) :
  s.called (calls ++ more) = (s.called calls).called more
  := List.foldl_append

theorem called_concat (s : Scene) (calls : List Call) (c : Call) :
  s.called (calls ++ [c]) = c.run (s.called calls)
  := s.called_append calls [c]

/-- The answers to calls that are made one after the other. -/
def answers : List Call → Scene → List Call.Answer
  | [], _ => []
  | c :: calls, s => c.answer s :: answers calls (c.run s)

/-- Every move of a client is a call. -/
theorem Goes.exists_calls {allowed : Scene → Deed → Prop} {x : Scene} (h : s.Goes allowed x) :
  ∃ calls, x = s.called calls
  := by
  induction h with
  | refl => exact ⟨[], rfl⟩
  | tail _ hmove ih =>
      obtain ⟨calls, rfl⟩ := ih
      have hlast := fun c => (s.called_concat calls c).symm
      cases hmove with
      | @deed _ deed h => exact ⟨_, hlast (.deed deed)⟩
      | @refused _ t _ _ h =>
          refine ⟨_, Eq.trans ?_ (hlast (.handOut t))⟩
          simp only [Call.run, Reading.after, h]
      | @begun _ t _ _ h =>
          refine ⟨_, Eq.trans ?_ (hlast (.handOut t))⟩
          simp only [Call.run, Reading.after, h]
      | @searched record _ _ h =>
          refine ⟨_, Eq.trans ?_ (hlast (.search record))⟩
          simp only [Call.run, h]

end Scene

/-- Whatever a client does, it goes on by calls. -/
theorem Program.Reaches.exists_calls {p : Program β} {x : Scene} (h : p.Reaches s x) :
  ∃ calls, x = s.called calls
  := (h.goes p.only_true).exists_calls

/-! ### Calls in sound scenes -/

theorem Reading.begun_uses (t : Reading α) (h : Holdings) :
  ∃ uses, t.begun h = { h with uses }
  := by
  rw [begun]
  split
  · exact ⟨_, rfl⟩
  · exact ⟨h.uses, rfl⟩

theorem Reading.play?_eq (t : Reading α) (hs : s.Sound) :
  t.play? s = (t.listing? s.1).map fun answer => answer.map fun _ => .each (t.items s.2)
  := by
  rw [play?]
  rcases h : t.listing? s.1 with _ | _ | listing
  · rfl
  · rfl
  · rw [Option.map_some, Option.map_some, Except.map, Except.map, t.start_each hs h]

namespace Call

/-- A call leads from a sound scene to a sound scene. -/
theorem run_sound (hs : s.Sound) (c : Call) :
  (c.run s).Sound
  := by
  cases c with
  | deed d => exact (d.run_leads s hs).1
  | handOut t =>
      rw [run, Reading.after]
      split
      case h_1 => exact hs
      case h_2 h => exact (Reading.begins_leads.refused t h hs).1
      case h_3 h => exact (Reading.begins_leads.begun t h hs).1
  | search record =>
      rw [run]
      split
      case h_1 => exact hs
      case h_2 h => exact (Reading.begins_leads.searched h hs).1

/-- A call is an operation, or does no more than read. -/
theorem deed_or_aside (hs : s.Sound) (c : Call) :
  (∃ d, c = .deed d) ∨ s.Aside (c.run s)
  := by
  cases c with
  | deed d => exact .inl ⟨d, rfl⟩
  | handOut t =>
      right
      rw [run, Reading.after]
      split
      case h_1 => apply refl_of
      case h_2 => exact t.aside_noted s
      case h_3 h => exact t.begun_aside hs h
  | search record =>
      right
      rw [run]
      split
      case h_1 => apply refl_of
      case h_2 h => exact Reading.searched_aside hs h

end Call

end SymbolIndex
