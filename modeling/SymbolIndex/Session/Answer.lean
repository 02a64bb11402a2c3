import SymbolIndex.Archive.Basic
import SymbolIndex.Events.Feed
import SymbolIndex.Library.Infos

/-!
# Answers of a session
-/

namespace SymbolIndex

/-- What a traversal has handed out, and how it has ended. -/
structure Traversed (α : Type) where
  items : List α
  result : Except Halt Outcome

/-- An item of a traversal, as it is answered. -/
inductive Item where
  | text (s : String)
  | symbol (v : SymbolView)
  | place (line column : UInt32)
  | occurrence (o : Except Halt OccurrenceInfo)
  /-- The roles and the symbol's name of each relation of an occurrence. -/
  | relations (inner : Traversed (Except Halt (UInt64 × String)))
  | dependency (kind : UInt32) (name : String)
  | inclusion (line : UInt32) (target : String)

inductive Answer where
  | nothing
  | flag (b : Bool)
  | text (s : String)
  | texts (list : List String)
  | mappings (list : List (String × String))
  | library (version : Version) (formatVersion : UInt32) (closures : Bool)
      (convention : Convention)
  | openedStore (path : String)
  | openedReader (name : String)
  | tally (t : Tally)
  | count (c : Count)
  | contents (c : StoreContents)
  | unreadable (e : ReadError)
  | time (t : Timestamp)
  | symbols (list : List SymbolInfo)
  | cachedSymbols (list : List SymbolView)
  | occurrences (list : List OccurrenceInfo)
  | unit (u : UnitInfo)
  | mainFile (present : Bool) (file : String)
  | dependencies (list : List DependencyInfo)
  | includes (list : List IncludeInfo)
  | traversed (t : Traversed Item)
  /-- What the filter has seen, and what the receiver has received. -/
  | searched (t : Traversed Item) (received : List String)
  | notifications (list : List NotificationView)
  | batches (list : List EventBatch) (connected : Bool)
  | batch (b : EventBatch)
  | disconnected
  | output (text : String)
  | failed (h : Halt)
  /-- There is no object of the name. -/
  | missing (kind name : String)
  /-- Nothing of the kind is where a choice of a symbol looks for it. -/
  | unchosen (kind : String)

/-- An answer with the calls that a faulty library has logged meanwhile. -/
structure LoggedAnswer where
  answer : Answer
  calls : List String

end SymbolIndex
