import SymbolIndex.Version

/-!
# Errors

What can go wrong when a library is loaded or used, by cause, and how it is told.
-/

namespace SymbolIndex

/-- Why a library could not be loaded. -/
inductive LoadError where
  /-- The file at a path is not a library that can be opened. -/
  | openFailed (path : String) (diagnosis : String)
  /-- The library lacks a symbol that every library must export. -/
  | missingSymbol (symbol : String)
  /-- There is no library to load. -/
  | notFound (explanation : String)

/-- Why a loaded library cannot be used. -/
inductive VersionError where
  | incompatible (kind : String) (required reported : Version)
  | formatMismatch (required reported : UInt32)

/-- What a store itself has reported about an operation. -/
structure StoreError where
  operation : String
  description : String
deriving DecidableEq

/-- How a library has broken the rules of an operation. -/
inductive Breach where
  /-- An applier was called this many times after it had asked to stop. -/
  | appliedAfterStop (calls : Nat)
  /-- A traversal was reported as complete although its applier had asked to stop. -/
  | completedAfterStop
  /-- A filter was called this many times after it had asked to stop. -/
  | filteredAfterStop (calls : Nat)
  /-- A receiver was called this many times without an accepted symbol to receive. -/
  | receivedRejected (calls : Nat)
  /-- An operation failed and gave no error object. -/
  | noErrorObject
  /-- Options were not created and there is no error object to explain it. -/
  | noHandle
  /-- There is no symbol where there must be one. -/
  | noSymbol
  /-- A name was longer when it was asked for again. -/
  | nameGrew
  | other (observation : String)
deriving DecidableEq

/-- Why an argument cannot be passed to a library. -/
inductive BadArgument where
  /-- A text with a zero in it, in the form in which it is shown. -/
  | interiorZero (shown : String)
  /-- Creation options of another library. -/
  | foreignOptions
  /-- Symbols of another library. -/
  | foreignSymbols
  | other (explanation : String)
deriving DecidableEq

inductive Error where
  | load (e : LoadError)
  | version (e : VersionError)
  | store (e : StoreError)
  | breach (operation : String) (b : Breach)
  /-- A traversal failed although no one had asked it to stop. -/
  | traversalFailed (operation : String)
  | badArgument (b : BadArgument)
  | io (explanation : String)

/-- How an operation ends if not with a value: with an error, or with the panic of a callback
that goes on when the library has returned. -/
inductive Halt where
  | error (e : Error)
  | panic (message : String)

def LoadError.message : LoadError → String
  | openFailed path diagnosis => "failed to open " ++ path ++ ": " ++ diagnosis
  | missingSymbol symbol => "missing required symbol: " ++ symbol
  | notFound explanation => "index store library not found: " ++ explanation

def VersionError.message : VersionError → String
  | incompatible kind required reported =>
    "incompatible " ++ kind ++ " version: required " ++ required.text
      ++ ", library reports " ++ reported.text
  | formatMismatch required reported =>
    "format version mismatch: required " ++ toString required.toNat
      ++ ", library reports " ++ toString reported.toNat

def StoreError.message (e : StoreError) : String :=
  e.operation ++ " failed: " ++ e.description

def Breach.message : Breach → String
  | appliedAfterStop n => "applier invoked " ++ toString n ++ " time(s) after a stop"
  | completedAfterStop => "reported completion after the applier stopped"
  | filteredAfterStop n => "filter invoked " ++ toString n ++ " time(s) after a stop"
  | receivedRejected n => "receiver invoked " ++ toString n ++ " time(s) for rejected symbols"
  | noErrorObject => "operation failed without producing an error object"
  | noHandle => "returned a null handle"
  | noSymbol => "returned a null symbol"
  | nameGrew => "name length grew between calls"
  | other observation => observation

def BadArgument.message : BadArgument → String
  | interiorZero shown => "interior NUL in " ++ shown
  | foreignOptions => "creation options were created by a different library"
  | foreignSymbols => "symbols were read through a different library"
  | other explanation => explanation

def Error.message : Error → String
  | load e => "load error: " ++ e.message
  | version e => "version error: " ++ e.message
  | store e => "store error: " ++ e.message
  | breach operation b => "protocol violation in " ++ operation ++ ": " ++ b.message
  | traversalFailed operation => "traversal failed in " ++ operation
  | badArgument b => "invalid argument: " ++ b.message
  | io explanation => "I/O error: " ++ explanation

def Halt.message : Halt → String
  | error e => e.message
  | panic message => message

/-- What the store has reported, if the error is a report of the store. -/
def Error.storeError? : Error → Option StoreError
  | store e => some e
  | _ => none

end SymbolIndex
