import SymbolIndex.Events.Listening
import SymbolIndex.Store.Record
import SymbolIndex.Store.Unit

/-!
# The error channel

A library may hand out an error object whenever it tries something that can fail, whether it says
that it has failed or not. Each object is read once and then disposed of once, before the trial
ends, and how the trial ends depends on what the library has said and on the object. Nothing is
assumed of the library. What happens to the objects is noted beside its state.
-/

namespace SymbolIndex

open Text (Octets)

variable {σ α : Type}

/-! ### What happens to error objects -/

inductive ErrorEvent where
  | handedOut (e : ErrorRef)
  | described (e : ErrorRef)
  | disposed (e : ErrorRef)
deriving DecidableEq

/-- A state, with what has happened to error objects up to now. -/
abbrev Noted (σ : Type) := σ × List ErrorEvent

namespace ErrorEvent

/-- An object is handed out, read and disposed of. -/
def life (e : ErrorRef) : List ErrorEvent := [.handedOut e, .described e, .disposed e]

/-- An operation by which no object is handed out. -/
def aside (f : σ → α × σ) (s : Noted σ) : α × Noted σ := ((f s.1).1, (f s.1).2, s.2)

/-- An operation by which an object may be handed out. -/
def handing (error : α → Option ErrorRef) (f : σ → α × σ) (s : Noted σ) : α × Noted σ :=
  ((f s.1).1, (f s.1).2, s.2 ++ (error (f s.1).1).toList.map handedOut)

end ErrorEvent

open ErrorEvent (aside handing)

/-- The library with a note of what happens to its error objects. -/
def Backend.noted (b : Backend σ) : Backend (Noted σ) where
  describeError e s :=
    ((b.describeError e s.1).1, (b.describeError e s.1).2, s.2 ++ [.described e])
  disposeError e s := (b.disposeError e s.1, s.2 ++ [.disposed e])
  createOptions := aside b.createOptions
  addMapping o source target s := (b.addMapping o source target s.1, s.2)
  disposeOptions o s := (b.disposeOptions o s.1, s.2)
  createStore path o := handing Created.error (b.createStore path o)
  disposeStore store := aside (b.disposeStore store)
  units c store sorted := aside (b.units c store sorted)
  setHandler store h := aside (b.setHandler store h)
  startListening store wait := handing ListenAnswer.error (b.startListening store wait)
  stopListening store := aside (b.stopListening store)
  background store := aside (b.background store)
  discardUnit store unit := aside (b.discardUnit store unit)
  discardRecord store record s := (b.discardRecord store record s.1, s.2)
  purge store s := (b.purge store s.1, s.2)
  unitName store path room := aside (b.unitName store path room)
  unitTime store unit := handing TimeAnswer.error (b.unitTime store unit)
  createRecordReader store name := handing Created.error (b.createRecordReader store name)
  disposeRecordReader r s := (b.disposeRecordReader r s.1, s.2)
  symbols c r past := aside (b.symbols c r past)
  search c r := aside (b.search c r)
  occurrences c r selection := aside (b.occurrences c r selection)
  occurrenceSymbol v := aside (b.occurrenceSymbol v)
  relations c v := aside (b.relations c v)
  relationSymbol v := aside (b.relationSymbol v)
  createUnitReader store name := handing Created.error (b.createUnitReader store name)
  disposeUnitReader r s := (b.disposeUnitReader r s.1, s.2)
  unit r s := b.unit r s.1
  dependencies c r := aside (b.dependencies c r)
  includes c r := aside (b.includes c r)

def Library.noted (l : Library σ) : Library (Noted σ) := { l with backend := l.backend.noted }

def Options.noted (o : Options σ) : Options (Noted σ) := { o with library := o.library.noted }

def Store.noted (store : Store σ) : Store (Noted σ) := { store with library := store.library.noted }

def EventStore.noted (e : EventStore σ) : EventStore (Noted σ) := { e with store := e.store.noted }

/-! ### Trials -/

/-- Something that can fail. -/
inductive Trial (σ : Type) where
  | openStore (l : Library σ) (path : String) (options : Option (Options σ))
  | openRecord (store : Store σ) (name : String)
  | openUnit (store : Store σ) (name : String)
  | unitTime (store : Store σ) (unit : String)
  | start (e : EventStore σ) (wait : Bool)

/-- What is gained if it does not fail. -/
inductive Gain where
  /-- The reference of what has been opened. -/
  | opened (ref : Nat)
  | time (time : Timestamp)
  | listening

/-- What the library says about a trial. -/
structure CallReport where
  failed : Bool
  error : Option ErrorRef
  gain : Gain

def Created.report (c : Created) : CallReport := ⟨c.ref.isNone, c.error, .opened (c.ref.getD 0)⟩

def TimeAnswer.report (t : TimeAnswer) : CallReport := ⟨t.failed, t.error, .time t.time⟩

def ListenAnswer.report (a : ListenAnswer) : CallReport := ⟨!a.started, a.error, .listening⟩

/-- A call of the library alone, with what it says. -/
def CallReport.asking (report : α → CallReport) (f : σ → α × σ) (s : Desk × σ) :
    CallReport × Desk × σ :=
  (report (f s.2).1, s.1, (f s.2).2)

/-- An access to the library alone, with its gain. -/
def Access.gaining (m : Access σ α) (gain : α → Gain) : Access (Desk × σ) Gain := fun s =>
  ((m s.2).1.map gain, s.1, (m s.2).2)

namespace Trial

def run : Trial σ → Access (Desk × σ) Gain
  | openStore l path options => (Store.openAt l path options).gaining fun x => .opened x.ref
  | openRecord store name => (RecordReader.openIn store name).gaining fun x => .opened x.ref
  | openUnit store name => (UnitReader.openIn store name).gaining fun x => .opened x.ref
  | unitTime store unit => (store.unitTime unit).gaining .time
  | start e wait => fun s => ((e.start wait s).1.map fun _ => .listening, (e.start wait s).2)

/-- The same trial of the library with the note. -/
def noted : Trial σ → Trial (Noted σ)
  | openStore l path options => .openStore l.noted path (options.map Options.noted)
  | openRecord store name => .openRecord store.noted name
  | openUnit store name => .openUnit store.noted name
  | unitTime store unit => .unitTime store.noted unit
  | start e wait => .start e.noted wait

def library : Trial σ → Library σ
  | openStore l _ _ => l
  | openRecord store _ | openUnit store _ | unitTime store _ => store.library
  | start e _ => e.store.library

/-- The operation of the library. -/
def operation : Trial σ → String
  | openStore _ _ options =>
    if options.isSome then "store_create_with_options" else "store_create"
  | openRecord .. => "record_reader_create"
  | openUnit .. => "unit_reader_create"
  | unitTime .. => "store_get_unit_modification_time"
  | start .. => "store_start_unit_event_listening"

/-- The call of the library, or why its arguments cannot be passed. -/
def request : Trial σ → Except BadArgument (Desk × σ → CallReport × Desk × σ)
  | openStore l path options =>
    if options.any fun o => !o.library.same l then .error .foreignOptions
    else
      match Text.terminated? path with
      | none => .error (.interiorZero path)
      | some octets =>
        .ok (CallReport.asking Created.report
          (l.backend.createStore octets (options.map Options.ref)))
  | openRecord store name =>
    match Text.terminated? name with
    | none => .error (.interiorZero (Text.quoted name))
    | some octets =>
      .ok (CallReport.asking Created.report
        (store.library.backend.createRecordReader store.ref octets))
  | openUnit store name =>
    match Text.terminated? name with
    | none => .error (.interiorZero (Text.quoted name))
    | some octets =>
      .ok (CallReport.asking Created.report
        (store.library.backend.createUnitReader store.ref octets))
  | unitTime store unit =>
    match Text.terminated? unit with
    | none => .error (.interiorZero (Text.quoted unit))
    | some octets =>
      .ok (CallReport.asking TimeAnswer.report (store.library.backend.unitTime store.ref octets))
  | start e wait => .ok fun s =>
    let answer := e.store.library.backend.startListening e.store.ref wait s.2
    (answer.1.report, s.1.process answer.1.calls, answer.2)

/-- A trial has failed if the library says so. For a modification time an error object is enough. -/
def fails : Trial σ → CallReport → Bool
  | unitTime .., r => r.failed || r.error.isSome
  | _, r => r.failed

/-- The error object that the library hands out, if it does. -/
def handedOut (t : Trial σ) (s : Desk × σ) : Option ErrorRef :=
  match t.request with
  | .error _ => none
  | .ok call => (call s).1.error

/-- How a trial is to end. -/
def outcome (t : Trial σ) (s : Desk × σ) : Except Halt Gain :=
  match t.request with
  | .error b => .error (.error (.badArgument b))
  | .ok call =>
    match call s with
    | (report, _, library) =>
      if t.fails report then
        match report.error with
        | some e =>
          .error (.error (.store ⟨t.operation,
            Text.readTerminated (t.library.backend.describeError e library).1⟩))
        | none => .error (.error (.breach t.operation .noErrorObject))
      else .ok report.gain

end Trial

/-! ### The end of a trial -/

/-- The end of a trial that has failed or not, with what the library has handed out. -/
def Library.conclude (l : Library σ) (operation : String) (failed : Bool) (error : Option ErrorRef)
    (a : α) : Access σ α :=
  if failed then l.failure operation error else .bind (l.releaseError error) fun _ => .pure a

/-- The end of a trial after a call of the library. -/
def Library.ended (l : Library σ) (operation : String) (fails : CallReport → Bool)
    (called : CallReport × Desk × σ) : Except Halt Gain × Desk × σ :=
  match called with
  | (report, desk, library) =>
    let result := l.conclude operation (fails report) report.error report.gain library
    (result.1, desk, result.2)

namespace Library

variable (l : Library σ) (operation : String)

/-- An error object that has been handed out is read and disposed of. -/
theorem conclude_noted (failed : Bool) (error : Option ErrorRef) (a : α) (s : σ)
    (log : List ErrorEvent) :
  l.noted.conclude operation failed error a (s, log ++ error.toList.map .handedOut)
    = ((l.conclude operation failed error a s).1, (l.conclude operation failed error a s).2,
        log ++ error.toList.flatMap ErrorEvent.life)
  := by
  have hlife : ∀ e, log ++ [ErrorEvent.handedOut e] ++ [.described e] ++ [.disposed e]
      = log ++ [e].flatMap ErrorEvent.life := by
    intro e
    simp [ErrorEvent.life]
  rcases error with _ | e
  · cases failed <;> rfl
  · cases failed
    · rw [Option.toList_some, ← hlife e]
      rfl
    · rw [Option.toList_some, ← hlife e]
      rfl

end Library

/-- What comes of an object that the library is to create. -/
theorem Library.gaining_created (l : Library σ) (operation : String) {create : σ → Created × σ}
    (make : Nat → α) (gain : α → Gain) (hgain : ∀ n, gain (make n) = .opened n) (s : Desk × σ) :
  (Access.step create >>= fun c => l.created operation c >>= fun n => pure (make n)).gaining gain s
    = l.ended operation (fun r => r.failed) (CallReport.asking Created.report create s)
  := by
  simp only [Access.gaining, bind, Access.bind, Access.step, CallReport.asking, ended]
  rcases create s.2 with ⟨⟨_ | ref, error⟩, library⟩
  · cases error <;> rfl
  · cases error <;> exact congrArg (fun g => (Except.ok g, s.1, _)) (hgain ref)

namespace Trial

/-- A trial calls the library if the arguments can be passed, and ends as the library has it. -/
theorem run_eq (t : Trial σ) (s : Desk × σ) :
  t.run s = match t.request with
    | .error b => (.error (.error (.badArgument b)), s)
    | .ok call => t.library.ended t.operation t.fails (call s)
  := by
  cases t with
  | openStore l path options =>
      simp only [run, request, Store.openAt]
      split
      · rfl
      · rw [Access.terminatedPath]
        cases Text.terminated? path with
        | none => rfl
        | some octets =>
            exact l.gaining_created _ (fun ref => ({ library := l, ref, path } : Store σ)) _
              (fun _ => rfl) s
  | openRecord store name =>
      simp only [run, request, RecordReader.openIn, Access.terminated]
      cases Text.terminated? name with
      | none => rfl
      | some octets =>
          exact store.library.gaining_created _
            (fun ref => ({ store, ref, name } : RecordReader σ)) _ (fun _ => rfl) s
  | openUnit store name =>
      simp only [run, request, UnitReader.openIn, Access.terminated]
      cases Text.terminated? name with
      | none => rfl
      | some octets =>
          exact store.library.gaining_created _
            (fun ref => ({ store, ref, name } : UnitReader σ)) _ (fun _ => rfl) s
  | unitTime store unit =>
      simp only [run, request, Store.unitTime, Access.terminated]
      cases Text.terminated? unit with
      | none => rfl
      | some octets =>
          simp only [Access.gaining, bind, Access.bind, Access.step, Access.pure, CallReport.asking,
            Library.ended]
          rcases store.library.backend.unitTime store.ref octets s.2 with
            ⟨⟨failed, time, error⟩, library⟩
          cases failed <;> cases error <;> rfl
  | start e wait =>
      rcases hanswer : e.store.library.backend.startListening e.store.ref wait s.2 with
        ⟨⟨started, error, calls⟩, library⟩
      simp only [run, request, EventStore.start, Library.ended, hanswer]
      cases started <;> cases error <;> rfl

/-- A trial ends as it is to end. -/
theorem run_outcome (t : Trial σ) (s : Desk × σ) :
  (t.run s).1 = t.outcome s
  := by
  rw [run_eq, outcome]
  rcases t.request with b | call
  · rfl
  · rcases hcalled : call s with ⟨report, desk, library⟩
    simp only [hcalled, Library.ended, Library.conclude]
    cases t.fails report with
    | true => cases report.error <;> rfl
    | false => cases report.error <;> rfl

/-- The call of the library with the note is that of the library. -/
theorem request_noted (t : Trial σ) :
  t.noted.request = t.request.map fun call s =>
    match call (s.1, s.2.1) with
    | (report, desk, library) =>
      (report, desk, library, s.2.2 ++ report.error.toList.map .handedOut)
  := by
  cases t with
  | openStore l path options =>
      have hforeign : (options.map Options.noted).any (fun o => !o.library.same l.noted)
          = options.any fun o => !o.library.same l := by
        cases options <;> rfl
      have hrefs : (options.map Options.noted).map Options.ref = options.map Options.ref := by
        cases options <;> rfl
      simp only [noted, request, hforeign, hrefs]
      split
      · rfl
      · cases Text.terminated? path <;> rfl
  | openRecord store name =>
      simp only [noted, request]
      cases Text.terminated? name <;> rfl
  | openUnit store name =>
      simp only [noted, request]
      cases Text.terminated? name <;> rfl
  | unitTime store unit =>
      simp only [noted, request]
      cases Text.terminated? unit <;> rfl
  | start e wait => rfl

/-- The note does not change how a trial ends, and what is noted is the life of the error object
that the library has handed out. -/
theorem run_noted (t : Trial σ) (desk : Desk) (s : σ) (log : List ErrorEvent) :
  t.noted.run (desk, s, log)
    = ((t.run (desk, s)).1, (t.run (desk, s)).2.1, (t.run (desk, s)).2.2,
        log ++ (t.handedOut (desk, s)).toList.flatMap ErrorEvent.life)
  := by
  have hlibrary : t.noted.library = t.library.noted := by cases t <;> rfl
  have hoperation : t.noted.operation = t.operation := by
    cases t with
    | openStore l path options => cases options <;> rfl
    | _ => rfl
  have hfails : t.noted.fails = t.fails := by cases t <;> rfl
  rw [run_eq, run_eq, request_noted, handedOut]
  rcases t.request with b | call
  · simp only [Except.map, Option.toList_none, List.flatMap_nil, List.append_nil]
  · rcases hcalled : call (desk, s) with ⟨report, desk', library⟩
    simp only [Except.map, hcalled, hlibrary, hoperation, hfails, Library.ended,
      Library.conclude_noted]

/-! ### Any number of trials -/

/-- One trial after the other. Anything else may happen before each of them. -/
def course : List ((Desk × σ → Desk × σ) × Trial σ) → Desk × σ →
    List (Except Halt Gain) × Desk × σ
  | [], s => ([], s)
  | (before, t) :: ts, s =>
    let result := t.run (before s)
    let rest := course ts result.2
    (result.1 :: rest.1, rest.2)

/-- The trials with the states in which they begin. -/
def moments : List ((Desk × σ → Desk × σ) × Trial σ) → Desk × σ → List (Trial σ × Desk × σ)
  | [], _ => []
  | (before, t) :: ts, s => (t, before s) :: moments ts (t.run (before s)).2

/-- The error objects that the libraries hand out, in order. -/
def handedOutAll (ts : List ((Desk × σ → Desk × σ) × Trial σ)) (s : Desk × σ) : List ErrorRef :=
  (moments ts s).flatMap fun m => (m.1.handedOut m.2).toList

/-- The same trials of the libraries with the note. In what happens else nothing is noted. -/
def notedAll (ts : List ((Desk × σ → Desk × σ) × Trial σ)) :
    List ((Desk × Noted σ → Desk × Noted σ) × Trial (Noted σ)) :=
  ts.map fun t =>
    (fun s => ((t.1 (s.1, s.2.1)).1, (t.1 (s.1, s.2.1)).2, s.2.2), t.2.noted)

/-- Whatever the libraries do, each trial ends as it is to end, and each error object that has been
handed out has been read once, and then disposed of once, by the time that its trial ends. -/
theorem error_objects_settled (ts : List ((Desk × σ → Desk × σ) × Trial σ)) (desk : Desk) (s : σ)
    (log : List ErrorEvent) :
  let noted := course (notedAll ts) (desk, s, log)
  noted.1 = (moments ts (desk, s)).map (fun m => m.1.outcome m.2)
    ∧ noted.2.2.2 = log ++ (handedOutAll ts (desk, s)).flatMap ErrorEvent.life
    ∧ course ts (desk, s) = (noted.1, noted.2.1, noted.2.2.1)
  := by
  induction ts generalizing desk s log with
  | nil => exact ⟨rfl, (List.append_nil log).symm, rfl⟩
  | cons first ts ih =>
      obtain ⟨before, t⟩ := first
      let x := before (desk, s)
      let life := (t.handedOut x).toList.flatMap ErrorEvent.life
      obtain ⟨hresults, hlog, hcourse⟩ := ih (t.run x).2.1 (t.run x).2.2 (log ++ life)
      have hfirst : course (notedAll ((before, t) :: ts)) (desk, s, log)
          = let rest := course (notedAll ts) ((t.run x).2.1, (t.run x).2.2, log ++ life)
            ((t.run x).1 :: rest.1, rest.2) := by
        have hnoted := t.run_noted x.1 x.2 log
        simp only [notedAll, List.map_cons, course]
        rw [hnoted]
      have hhanded : handedOutAll ((before, t) :: ts) (desk, s)
          = (t.handedOut x).toList ++ handedOutAll ts (t.run x).2 := by
        simp only [handedOutAll, moments, List.flatMap_cons, x]
      rw [hfirst, hhanded]
      refine ⟨?_, ?_, ?_⟩
      · rw [moments, List.map_cons, ← run_outcome]
        exact congrArg _ hresults
      · rw [List.flatMap_append, ← List.append_assoc]
        exact hlog
      · rw [course, hcourse]

end Trial

end SymbolIndex
