import SymbolIndex.Proofs.Answers.Calls
import SymbolIndex.Proofs.Durability.Confluence
import SymbolIndex.Proofs.Durability.Reopening

/-!
# What there is of an open store by itself

An open store has its mappings and its contents, and it has been given handlers. How an operation
on it ends, what its handlers are told, and what becomes of it can be said of these alone.
-/

namespace SymbolIndex

/-- An open store by itself. Its handlers are numbered as it is given them. -/
structure Handle where
  mappings : List (String × String)
  contents : StoreContents
  /-- How many handlers it has been given. -/
  given : Nat := 0
  handler : Option Nat := none
  /-- The handler is the feed of subscribers. -/
  fed : Bool := false
  listening : Bool := false
  /-- The first notification, which is still to be delivered in the background. -/
  pending : Option (Nat × NotificationView) := none

/-- The response that is given, if nothing is given to go on with. -/
def Given.response? : Given → Option Response
  | response r => some r
  | _ => none

namespace Handle

variable (h : Handle)

/-- How it ends to begin to listen. -/
def begins : Except Halt (Option Response) :=
  if h.contents.listenFault = .failWithoutError then
    .error (.error (.breach "store_start_unit_event_listening" .noErrorObject))
  else if h.listening then
    StoreError.answer "store_start_unit_event_listening" "already listening for unit events"
  else .ok (some .done)

/-- How an operation ends. The response is left out where something is given to go on with. -/
def ends : StoreDeed → Except Halt (Option Response)
  | .openRecord record =>
    Text.checked record (Text.quoted record) ((h.contents.openRecord record).map fun _ => none)
  | .openUnit unit =>
    Text.checked unit (Text.quoted unit) ((h.contents.openUnit unit).map fun _ => none)
  | .subscribe => .ok none
  | .start _ => h.begins
  | deed => (deed.request?.elim (.ok .done) (h.contents.answer h.mappings)).map some

/-- What happens to the store. -/
def turn (deed : StoreDeed) : Turn := deed.turn ((h.ends deed).map fun _ => ())

/-- The notification of all units. -/
def first : NotificationView := ArchiveStore.notification true .added h.contents.unitNames

/-- A notification for the handler, if there is one. -/
def tell (n : NotificationView) : List (Nat × NotificationView) :=
  h.handler.toList.map fun i => (i, n)

/-- What handlers are told of what happens to the store, by their numbers. -/
def toldOf : Turn → List (Nat × NotificationView)
  | .rest => []
  | .discarded unit =>
    if unit ∈ h.contents.unitNames ∧ h.listening = true then
      h.tell (ArchiveStore.notification false .removed [unit])
    else []
  | .began wait => if wait then h.tell h.first else []
  | .stopped | .caughtUp => h.pending.toList

/-- What handlers are told during an operation, by their numbers. -/
def tells : StoreDeed → List (Nat × NotificationView)
  | .close => h.pending.toList
  | deed => h.toldOf (h.turn deed)

/-- With a handler more. -/
def install (fed : Bool) : Handle :=
  { h with given := h.given + 1, handler := some h.given, fed }

/-- With what happens to the store, apart from its contents. -/
def turned : Turn → Handle
  | .began true => { h with listening := true, pending := none }
  | .began false => { h with listening := true, pending := h.handler.map fun i => (i, h.first) }
  | .stopped => { h with listening := false, pending := none }
  | .caughtUp => { h with pending := none }
  | .rest | .discarded _ => h

/-- The store after an operation. There is nothing left of one that is closed. -/
def after : StoreDeed → Option Handle
  | .close => none
  | .setHandler _ => some (h.install false)
  | .subscribe => some (if h.fed then h else h.install true)
  | deed => some { h.turned (h.turn deed) with contents := h.contents.after deed }

/-- The store after operations, first one first. -/
def afterAll (h : Option Handle) (deeds : List StoreDeed) : Option Handle :=
  deeds.foldl (fun h deed => h.bind fun h => h.after deed) h

end Handle

/-! ### Handles of stores that are held -/

/-- The handle of a store that is held. The handlers of the store are named in the order of their
numbers. -/
structure Handle.Describes (h : Handle) (names : List HandlerRef) (e : EventStore Archive)
    (x : ArchiveStore) : Prop where
  mappings : x.mappings = h.mappings
  contents : x.contents = h.contents
  given : names.length = h.given
  handler : x.handler.map some = h.handler.map (names[·]?)
  fed : e.feed.isSome = h.fed
  listening : x.listening = h.listening
  pending : x.pending.map (Prod.map some id) = h.pending.map (Prod.map (names[·]?) id)

/-- The handler that is called to be told something, and what it is told. -/
def HandlerCall.told? : HandlerCall → Option (HandlerRef × NotificationView)
  | deliver h n => some (h, n)
  | release _ => none

/-- What handlers are told, one after the other. -/
def HandlerCall.told (calls : List HandlerCall) : List (HandlerRef × NotificationView) :=
  calls.filterMap told?

namespace ArchiveStore

variable (x : ArchiveStore)

theorem told_deliver (n : NotificationView) :
  HandlerCall.told (x.deliver n) = x.handler.toList.map fun h => (h, n)
  := by
  rw [deliver]
  cases x.handler <;> rfl

theorem told_deliverPending :
  HandlerCall.told x.deliverPending.1 = x.pending.toList
  := by
  rw [deliverPending]
  cases x.pending with
  | none => rfl
  | some p => split <;> simp_all [HandlerCall.told, HandlerCall.told?]

theorem told_releaseHandler :
  HandlerCall.told x.releaseHandler = []
  := by
  rw [releaseHandler]
  split
  · rfl
  · split <;> rfl

theorem told_close :
  HandlerCall.told x.close = x.pending.toList
  := by
  have hstop := told_deliverPending { x with listening := false }
  have hrelease := x.stopListening.2.told_releaseHandler
  have hclose : x.close = x.stopListening.1 ++ x.stopListening.2.releaseHandler := rfl
  rw [hclose, HandlerCall.told, List.filterMap_append]
  rw [HandlerCall.told] at hrelease hstop
  rw [hrelease, List.append_nil]
  exact hstop

end ArchiveStore

/-! ### How operations end -/

namespace Handle.Describes

variable {h : Handle} {names : List HandlerRef} {e : EventStore Archive} {x : ArchiveStore}
  {s : Scene} {handedOut : Nat}

/-- To listen is refused if the store is said to do so, or if it listens already. -/
theorem start_given (hd : h.Describes names e x) (honest : e.store.library.Honest)
    (hs : s.2.Sound handedOut) (hx : s.2.stores.get? e.store.ref = some x) (wait : Bool) :
  ((StoreDeed.start wait).given e (s.1.desk, s.2)).map Given.response? = h.begins
  := by
  have hbackend : e.store.library.backend = Archive.backend := honest
  rw [StoreDeed.given, Access.gives, EventStore.start, begins, ← hd.contents, ← hd.listening]
  simp only [hbackend, Archive.backend, Archive.startListening, hx]
  by_cases hfault : x.contents.listenFault = .failWithoutError
  · simp only [if_pos hfault]
    rfl
  · simp only [if_neg hfault]
    cases hlistening : x.listening with
    | true =>
        have hzero : '\x00' ∉ "already listening for unit events".toList := by decide
        have hrefused := (Library.failure_reported (α := Unit) honest (hs.presents hx)
          "store_start_unit_event_listening" x.directory hzero).1
        simp only [↓reduceIte, Bool.false_eq_true, hrefused]
        rfl
    | false =>
        simp only [Bool.false_eq_true, ↓reduceIte]
        split <;> simp only [↓reduceIte, Library.releaseError_ok] <;> rfl

/-- An operation on a store that is held ends as can be said of the store by itself. -/
theorem given_eq (hd : h.Describes names e x) (honest : e.store.library.Honest)
    (hs : s.2.Sound handedOut) (hx : s.2.stores.get? e.store.ref = some x) (deed : StoreDeed) :
  (deed.given e (s.1.desk, s.2)).map Given.response? = h.ends deed
  := by
  have hpresents := hs.presents hx
  rw [hd.mappings, hd.contents] at hpresents
  have hrequest : ∀ q, ((e.answer q).gives .response (s.1.desk, s.2)).map Given.response?
      = (h.contents.answer h.mappings q).map some := by
    intro q
    rw [Access.gives, (EventStore.answer_eq honest q hpresents).1]
    cases h.contents.answer h.mappings q <;> rfl
  cases deed with
  | unitNames _ | unitNamesFiltered _ | unitName _ | unitTime _ | discardUnit _ | discardRecord _
  | purge => exact hrequest _
  | openRecord record =>
      have hopening := RecordReader.openIn_opening honest record s.2 hpresents
      rw [ends, ← Text.map_checked]
      simp only [StoreDeed.given, Access.gives]
      revert hopening
      cases Text.checked record (Text.quoted record) (h.contents.openRecord record) with
      | error halt => exact fun hopening => by rw [hopening.1]; rfl
      | ok entry =>
          rintro ⟨r, a, hopened, -⟩
          rw [hopened]
          rfl
  | openUnit unit =>
      have hopening := UnitReader.openIn_opening honest unit s.2 hpresents
      rw [ends, ← Text.map_checked]
      simp only [StoreDeed.given, Access.gives]
      revert hopening
      cases Text.checked unit (Text.quoted unit) (h.contents.openUnit unit) with
      | error halt => exact fun hopening => by rw [hopening.1]; rfl
      | ok entry =>
          rintro ⟨u, a, hopened, -⟩
          rw [hopened]
          rfl
  | start wait => exact hd.start_given honest hs hx wait
  | setHandler _ | subscribe | stop | background | close => rfl

/-- What happens to the store can be said of it by itself. -/
theorem turn_eq (hd : h.Describes names e x) (honest : e.store.library.Honest)
    (hs : s.2.Sound handedOut) (hx : s.2.stores.get? e.store.ref = some x) (deed : StoreDeed) :
  deed.turn (deed.act e s).1 = h.turn deed
  := by
  rw [turn, ← hd.given_eq honest hs hx deed, StoreDeed.act_fst]
  cases deed.given e (s.1.desk, s.2) <;> rfl

/-! ### What handlers are told -/

theorem told_eq (hd : h.Describes names e x) (n : NotificationView) :
  (HandlerCall.told (x.deliver n)).map (Prod.map some id)
    = (h.tell n).map (Prod.map (names[·]?) id)
  := by
  have hhandler := congrArg (fun o => o.toList.map fun i => (i, n)) hd.handler
  simpa [x.told_deliver, tell, Option.toList_map, Function.comp_def] using hhandler

theorem pending_eq (hd : h.Describes names e x) :
  x.pending.toList.map (Prod.map some id) = h.pending.toList.map (Prod.map (names[·]?) id)
  := by
  have hpending := congrArg Option.toList hd.pending
  rwa [Option.toList_map, Option.toList_map] at hpending

theorem turn_told (hd : h.Describes names e x) (t : Turn) :
  (HandlerCall.told (x.turn t).1).map (Prod.map some id)
    = (h.toldOf t).map (Prod.map (names[·]?) id)
  := by
  cases t with
  | rest => rfl
  | discarded unit =>
      rw [ArchiveStore.turn, ArchiveStore.discard, toldOf, hd.contents, hd.listening]
      by_cases hunit : unit ∈ h.contents.unitNames
      · cases hlistening : h.listening with
        | true => simpa [hunit] using hd.told_eq _
        | false => simp [hunit, HandlerCall.told]
      · simp [hunit, HandlerCall.told]
  | began wait =>
      rw [ArchiveStore.turn, ArchiveStore.listen, toldOf, first, hd.contents]
      cases wait with
      | true => exact hd.told_eq _
      | false => rfl
  | stopped =>
      rw [ArchiveStore.turn, ArchiveStore.stopListening, ArchiveStore.told_deliverPending]
      exact hd.pending_eq
  | caughtUp =>
      rw [ArchiveStore.turn, ArchiveStore.told_deliverPending]
      exact hd.pending_eq

/-- What the handlers of a store that is held are told can be said of the store by itself. -/
theorem calls_eq (hd : h.Describes names e x) (honest : e.store.library.Honest)
    (hs : s.2.Sound handedOut) (hx : s.2.stores.get? e.store.ref = some x) (deed : StoreDeed) :
  (HandlerCall.told (deed.calls e s.1.desk s.2)).map (Prod.map some id)
    = (h.tells deed).map (Prod.map (names[·]?) id)
  := by
  have hturns : deed.turns = true →
      (HandlerCall.told (deed.calls e s.1.desk s.2)).map (Prod.map some id)
        = (h.toldOf (h.turn deed)).map (Prod.map (names[·]?) id) := by
    intro hturns
    rw [StoreDeed.calls_of_turns honest hx hturns, hd.turn_eq honest hs hx]
    exact hd.turn_told _
  cases deed with
  | setHandler journal =>
      rw [StoreDeed.calls_of_installs honest hx rfl, x.told_releaseHandler]
      rfl
  | subscribe =>
      cases hfeed : e.feed with
      | some f =>
          simp only [StoreDeed.calls, hfeed]
          rfl
      | none =>
          rw [StoreDeed.calls_of_installs honest hx (by rw [StoreDeed.installs, hfeed]; rfl),
            x.told_releaseHandler]
          rfl
  | close =>
      rw [StoreDeed.calls_close honest hx, x.told_close]
      exact hd.pending_eq
  | _ => exact hturns rfl

end Handle.Describes

end SymbolIndex
