import SymbolIndex.Proofs.Durability.Requests

/-!
# What operations give

An operation of a client ends with something that it is given, or with an error. It ends with an
error exactly if it is said to when it is run.
-/

namespace SymbolIndex

variable {σ α : Type}

/-- What a client is given by an operation that ends without an error. -/
inductive Given where
  | response (r : Response)
  | options (o : Options Archive)
  | store (store : Store Archive)
  | record (r : RecordReader Archive)
  | unit (u : UnitReader Archive)
  | receiver (r : Receiver)
  | held (symbols : List HeldSymbol)
  | view (v : UnitView)
  | dependencies (infos : List DependencyInfo)
  | includes (infos : List IncludeInfo)
  | symbol (v : SymbolView)
  | occurrence (info : OccurrenceInfo)
  | relation (info : RelationInfo)
  | journal (journal : Nat)
  | notifications (ns : List NotificationView)
  /-- The first batch of a receiver, and whether more may come if there is none. -/
  | batch (batch : Option EventBatch) (connected : Bool)
  | batches (batches : List EventBatch)

/-- Nothing but that it is done. -/
def Given.done : Given := .response .done

/-- What an access gives in a state. -/
def Access.gives (m : Access σ α) (given : α → Given) (s : σ) : Except Halt Given :=
  (m s).1.map given

namespace StoreDeed

def given (e : EventStore Archive) : StoreDeed → Desk × Archive → Except Halt Given
  | unitNames sorted => (e.answer (.unitNames sorted)).gives .response
  | unitNamesFiltered includeSystem => (e.answer (.unitNamesFiltered includeSystem)).gives .response
  | unitName outputPath => (e.answer (.unitName outputPath)).gives .response
  | unitTime unit => (e.answer (.unitTime unit)).gives .response
  | discardUnit unit => (e.answer (.discardUnit unit)).gives .response
  | discardRecord record => (e.answer (.discardRecord record)).gives .response
  | purge => (e.answer .purge).gives .response
  | openRecord record => fun s => (RecordReader.openIn e.store record).gives .record s.2
  | openUnit unit => fun s => (UnitReader.openIn e.store unit).gives .unit s.2
  | subscribe => e.subscribe.gives fun x => .receiver x.1
  | start wait => (e.start wait).gives fun _ => .done
  | setHandler _ | stop | background | close => fun _ => .ok .done

end StoreDeed

/-- What a reader of a record gives. To close it gives nothing more. -/
def RecordDeed.given (r : RecordReader Archive) : RecordDeed → Archive → Except Halt Given
  | symbolInfos => r.symbolInfos.gives fun infos => .response (.symbols infos)
  | cachedSymbols => r.cachedSymbols.gives .held
  | occurrenceInfos => r.occurrenceInfos.gives fun infos => .response (.occurrences infos)
  | close => fun _ => .ok .done

def UnitDeed.given (u : UnitReader Archive) : UnitDeed → Archive → Except Halt Given
  | view => u.view.gives .view
  | info => u.info.gives fun info => .response (.unit info)
  | dependencyInfos => u.dependencyInfos.gives .dependencies
  | includeInfos => u.includeInfos.gives .includes
  | close => fun _ => .ok .done

/-- What is asked of an item is given by the library that has handed it out. -/
def ItemDeed.given (l : Library Archive) : ItemDeed → Archive → Except Halt Given
  | occurrenceSymbol v => (l.occurrenceSymbol v).gives .symbol
  | occurrenceInfo v => (l.occurrenceInfo v).gives .occurrence
  | relationSymbol v => (l.relationSymbol v).gives .symbol
  | relationInfo v => (l.relationInfo v).gives .relation

/-- Whatever is asked of the event desk is given. -/
def DeskDeed.given (d : Desk) : DeskDeed → Given
  | newJournal => .journal d.journal.1
  | takeJournal journal => .notifications (d.takeJournal journal).1
  | receive r => .batch (d.receive r).1 (d.connected r)
  | drain r => .batches (d.drain r).1
  | drop _ => .done

namespace Deed

/-- An operation on something that is not held gives nothing. -/
def given : Deed → Scene → Except Halt Given
  | changeDisk _, _ => .ok .done
  | onDesk deed, s => .ok (deed.given s.1.desk)
  | createOptions l, s => (Options.create (l.withArchive l.convention)).gives .options s.2
  | addMapping options source target, s =>
    match s.1.option? options with
    | none => .ok .done
    | some o => (o.add source target).gives (fun _ => .done) s.2
  | disposeOptions _, _ => .ok .done
  | openStore l path options, s =>
    (Store.openAt (l.withArchive l.convention) path (options.bind s.1.option?)).gives .store s.2
  | onStore store deed, s =>
    match s.1.store? store with
    | none => .ok .done
    | some e => deed.given e (s.1.desk, s.2)
  | onRecord record deed, s =>
    match s.1.record? record with
    | none => .ok .done
    | some r => deed.given r s.2
  | onUnit unit deed, s =>
    match s.1.unit? unit with
    | none => .ok .done
    | some u => deed.given u s.2
  | onItem l deed, s => deed.given (l.withArchive l.convention) s.2

end Deed

/-! ### How operations end -/

namespace Access

theorem map_gives (m : Access σ α) (given : α → Given) (s : σ) :
  ((m.gives given s).map fun _ => ()) = (m s).1.map fun _ => ()
  := by
  rw [gives]
  cases (m s).1 <;> rfl

theorem map_gives_respond (m : Access Archive α) (response : α → Response)
    (s : Desk × Archive) :
  (((m.respond response).gives .response s).map fun _ => ()) = (m s.2).1.map fun _ => ()
  := by
  rw [map_gives, respond]
  cases (m s.2).1 <;> rfl

end Access

namespace Scene

/-- What is kept of an access makes no difference to how it ends. -/
theorem use_fst (m : Access Archive α) (keep : α → Holdings → Holdings) (s : Scene) :
  (use m keep s).1 = (m s.2).1.map fun _ => ()
  := by
  rw [use]
  rcases m s.2 with ⟨_ | _, _⟩ <;> rfl

theorem useDesk_fst (m : Access (Desk × Archive) α) (keep : α → Holdings → Holdings) (s : Scene) :
  (useDesk m keep s).1 = (m (s.1.desk, s.2)).1.map fun _ => ()
  := by
  rw [useDesk]
  rcases m (s.1.desk, s.2) with ⟨_ | _, _, _⟩ <;> rfl

end Scene

theorem StoreDeed.act_fst (e : EventStore Archive) (deed : StoreDeed) (s : Scene) :
  (deed.act e s).1 = (deed.given e (s.1.desk, s.2)).map fun _ => ()
  := by
  cases deed with
  | unitNames _ | unitNamesFiltered _ | unitName _ | unitTime _ | discardRecord _ | purge =>
      rw [act, Scene.use_fst, given, EventStore.answer, Access.map_gives_respond]
  | discardUnit unit =>
      rw [act, Scene.useDesk_fst, given, Access.map_gives]
      simp only [EventStore.answer]
      cases (e.discardUnit unit (s.1.desk, s.2)).1 <;> rfl
  | openRecord _ | openUnit _ => rw [act, Scene.use_fst, given, Access.map_gives]
  | subscribe | start _ => rw [act, Scene.useDesk_fst, given, Access.map_gives]
  | setHandler _ | stop | background | close => rfl

theorem RecordDeed.act_fst (r : RecordReader Archive) (deed : RecordDeed) (s : Scene) :
  (deed.act r s).1 = (deed.given r s.2).map fun _ => ()
  := by
  cases deed with
  | symbolInfos | cachedSymbols | occurrenceInfos =>
      rw [act, Scene.use_fst, given, Access.map_gives]
  | close => rfl

theorem UnitDeed.act_fst (u : UnitReader Archive) (deed : UnitDeed) (s : Scene) :
  (deed.act u s).1 = (deed.given u s.2).map fun _ => ()
  := by
  cases deed with
  | view | info | dependencyInfos | includeInfos =>
      rw [act, Scene.use_fst, given, Access.map_gives]
  | close => rfl

theorem ItemDeed.run_fst (l : Library Archive) (deed : ItemDeed) (s : Scene) :
  (deed.run l s).1 = (deed.given l s.2).map fun _ => ()
  := by
  cases deed <;> rw [run, Scene.use_fst, given, Access.map_gives]

/-- An operation ends with an error exactly if it gives nothing but that error. -/
theorem Deed.run_fst (deed : Deed) (s : Scene) :
  (deed.run s).1 = (deed.given s).map fun _ => ()
  := by
  cases deed with
  | changeDisk f | onDesk deed => rfl
  | createOptions l | openStore l path options =>
      simp only [run, Scene.use_fst, given, Access.map_gives]
  | addMapping options source target =>
      simp only [run, given]
      cases s.1.option? options with
      | none => rfl
      | some o => simp only [Scene.use_fst, Access.map_gives]
  | disposeOptions options =>
      simp only [run, given]
      cases s.1.option? options <;> rfl
  | onStore store deed =>
      simp only [run, StoreDeed.run, given]
      cases s.1.store? store with
      | none => rfl
      | some e => exact deed.act_fst e _
  | onRecord record deed =>
      simp only [run, RecordDeed.run, given]
      cases s.1.record? record with
      | none => rfl
      | some r => exact deed.act_fst r _
  | onUnit unit deed =>
      simp only [run, UnitDeed.run, given]
      cases s.1.unit? unit with
      | none => rfl
      | some u => exact deed.act_fst u _
  | onItem l deed => exact deed.run_fst _ s

end SymbolIndex
