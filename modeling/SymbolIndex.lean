import SymbolIndex.Text.Utf8
import SymbolIndex.Text.Quoted
import SymbolIndex.Version
import SymbolIndex.Timestamp
import SymbolIndex.Symbol.Kind
import SymbolIndex.Symbol.Roles
import SymbolIndex.Symbol.Properties
import SymbolIndex.Unit.Kind
import SymbolIndex.Error
import SymbolIndex.Catalogue
import SymbolIndex.Json.Reader
import SymbolIndex.Json.Printer
import SymbolIndex.Contents.Format
import SymbolIndex.Contents.Sample
import SymbolIndex.Search
import SymbolIndex.Store.Record
import SymbolIndex.Store.Unit
import SymbolIndex.Archive.Backend
import SymbolIndex.Session.Run
import SymbolIndex.Report.Command
import SymbolIndex.Library.InProcess
import SymbolIndex.Library.Shared
import SymbolIndex.Discovery.LibraryFile
import SymbolIndex.Faults.Backend
import SymbolIndex.Events.Listening
import SymbolIndex.Main
import SymbolIndex.Proofs.Archive.Conventions
import SymbolIndex.Proofs.Search.Reception
import SymbolIndex.Proofs.Collection.Gathering
import SymbolIndex.Proofs.Collection.Completeness
import SymbolIndex.Proofs.Loading.Outcome
import SymbolIndex.Proofs.Accounts.Books
import SymbolIndex.Proofs.Accounts.Archive
import SymbolIndex.Proofs.Accounts.Operations
import SymbolIndex.Proofs.Accounts.Accesses
import SymbolIndex.Proofs.Run.Scene
import SymbolIndex.Proofs.Accounts.Scenes
import SymbolIndex.Proofs.Accounts.Deeds
import SymbolIndex.Proofs.Accounts.Programs
import SymbolIndex.Proofs.Run.Points
import SymbolIndex.Proofs.Accounts.Conservation
import SymbolIndex.Proofs.Events.Still
import SymbolIndex.Proofs.Events.Desk
import SymbolIndex.Proofs.Events.Serving
import SymbolIndex.Proofs.Events.Attachment
import SymbolIndex.Proofs.Events.Stream
import SymbolIndex.Proofs.Events.Watching
import SymbolIndex.Proofs.Events.Replay
import SymbolIndex.Proofs.Events.Silence
import SymbolIndex.Proofs.Events.FanOut
import SymbolIndex.Proofs.Events.Calls
import SymbolIndex.Proofs.Events.InStep
import SymbolIndex.Proofs.Events.Supply
import SymbolIndex.Proofs.Events.CutOff
import SymbolIndex.Proofs.Events.Subscription
import SymbolIndex.Proofs.Events.HandlerStory
import SymbolIndex.Proofs.Events.Lifetime
import SymbolIndex.Proofs.Events.Finalization
import SymbolIndex.Proofs.Places
import SymbolIndex.Proofs.Timestamp
import SymbolIndex.Proofs.Version
import SymbolIndex.Proofs.Text.Utf8
import SymbolIndex.Proofs.Text.Passage
import SymbolIndex.Proofs.Text.Order
import SymbolIndex.Proofs.Json.Grammar
import SymbolIndex.Proofs.Json.Reading
import SymbolIndex.Proofs.Json.Printed
import SymbolIndex.Proofs.Json.Codec
import SymbolIndex.Proofs.Json.Forms
import SymbolIndex.Proofs.Json.Decoding
import SymbolIndex.Proofs.Contents.Document
import SymbolIndex.Proofs.Contents.Described
import SymbolIndex.Proofs.Contents.Copies
import SymbolIndex.Proofs.Contents.UnitName
import SymbolIndex.Proofs.Contents.Units
import SymbolIndex.Proofs.Contents.Records
import SymbolIndex.Proofs.Vocabulary
import SymbolIndex.Proofs.FlagSet
import SymbolIndex.Proofs.Contents.Faithful
import SymbolIndex.Proofs.Archive.Files
import SymbolIndex.Proofs.Path
import SymbolIndex.Proofs.Discovery.Ways
import SymbolIndex.Proofs.Discovery.LibraryFile
import SymbolIndex.Proofs.Run.Opening
import SymbolIndex.Proofs.Answers.Basic
import SymbolIndex.Proofs.Answers.Names
import SymbolIndex.Proofs.Answers.Stores
import SymbolIndex.Proofs.Answers.Units
import SymbolIndex.Proofs.Answers.Records
import SymbolIndex.Proofs.Answers.References
import SymbolIndex.Proofs.Durability.Stored
import SymbolIndex.Proofs.Durability.Requests
import SymbolIndex.Proofs.Durability.Reopening
import SymbolIndex.Proofs.Durability.Removals
import SymbolIndex.Proofs.Durability.Confluence
import SymbolIndex.Proofs.Answers.Deeds
import SymbolIndex.Proofs.Answers.Traversals
import SymbolIndex.Proofs.Answers.Calls
import SymbolIndex.Proofs.Errors.Channel
import SymbolIndex.Proofs.Errors.Failures
import SymbolIndex.Proofs.Errors.Alike
import SymbolIndex.Proofs.Errors.Indifference
import SymbolIndex.Proofs.Errors.Erasure
import SymbolIndex.Proofs.Isolation.Handles
import SymbolIndex.Proofs.Isolation.Courses
import SymbolIndex.Proofs.Isolation.Bounds
import SymbolIndex.Proofs.Isolation.Readers
import SymbolIndex.Proofs.Isolation.Shown
import SymbolIndex.Proofs.Isolation.Documents
import SymbolIndex.Proofs.Isolation.Snapshots
import SymbolIndex.Proofs.Isolation.Outputs
import SymbolIndex.Proofs.Isolation.Mappings
import SymbolIndex.Proofs.Isolation.AddedMappings
import SymbolIndex.Proofs.Isolation.OpenRecords
import SymbolIndex.Proofs.Isolation.OpenStores
import SymbolIndex.Proofs.Archive.Searches
import SymbolIndex.Proofs.Archive.Deliveries
import SymbolIndex.Proofs.Archive.LineRanges
import SymbolIndex.Proofs.Archive.Selections
import SymbolIndex.Proofs.Archive.RecordCopies
import SymbolIndex.Proofs.Archive.UnitCopies
import SymbolIndex.Proofs.Archive.Purges
import SymbolIndex.Proofs.Archive.UnitListings
import SymbolIndex.Proofs.Archive.RecordReports
import SymbolIndex.Proofs.Archive.MappedStores
