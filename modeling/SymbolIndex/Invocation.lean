import SymbolIndex.Archive.Backend
import SymbolIndex.Library.InProcess
import SymbolIndex.Report.Command

/-!
# Invocations from a command line

The arguments of a command line name a command and say on which store it works and how its report
is written. Options may stand before and behind the command.
-/

namespace SymbolIndex

structure Invocation where
  /-- The path of the store. -/
  store : Option String := none
  format : ReportFormat := .text
  command : Command

/-- Why a command line asks for nothing. -/
inductive UsageError where
  | noCommand
  | unknownCommand (words : List String)
  | missingValue (option : String)
  | unknownFormat (name : String)
  | noStore

def UsageError.message : UsageError → String
  | noCommand => "a command is required"
  | unknownCommand words => "no such command: " ++ " ".intercalate words
  | missingValue option => "a value is required for " ++ option
  | unknownFormat name => "no such format: " ++ name
  | noStore => "Store path required"

namespace ReportFormat

def name : ReportFormat → String
  | text => "text"
  | json => "json"

def named? (s : String) : Option ReportFormat := [text, json].find? fun f => f.name == s

end ReportFormat

/-- The command that words name. -/
def Command.ofWords : List String → Except UsageError Command
  | [] => .error .noCommand
  | ["info"] => .ok .info
  | ["print-unit"] => .ok (.printUnit none)
  | ["print-unit", name] => .ok (.printUnit (some name))
  | ["print-record"] => .ok (.printRecord none)
  | ["print-record", name] => .ok (.printRecord (some name))
  | ["unit-name", outputPath] => .ok (.unitName outputPath)
  | ["purge"] => .ok .purge
  | "units" :: flags =>
    if flags.all fun f => f == "--sorted" || f == "--no-system" then
      .ok (.units (flags.contains "--sorted") (!flags.contains "--no-system"))
    else .error (.unknownCommand ("units" :: flags))
  | words => .error (.unknownCommand words)

namespace Invocation

/-- Reads arguments, after a store, a format and some words have been read. The words stand last
first. -/
def read (store : Option String) (format : ReportFormat) (words : List String) :
    List String → Except UsageError Invocation
  | [] => (Command.ofWords words.reverse).map fun command => { store, format, command }
  | "--store" :: path :: rest | "-s" :: path :: rest => read (some path) format words rest
  | "--format" :: name :: rest | "-f" :: name :: rest =>
    match ReportFormat.named? name with
    | some format => read store format words rest
    | none => .error (.unknownFormat name)
  | word :: rest =>
    if ["--store", "-s", "--format", "-f"].contains word then .error (.missingValue word)
    else read store format (word :: words) rest

/-- The invocation that arguments write. -/
def ofArguments : List String → Except UsageError Invocation := read none .text []

/-- The library that serves invocations. -/
def library (loaded : LoadedLibrary String) : Library Archive where
  identity := 0
  path := loaded.path
  version := loaded.version
  formatVersion := loaded.formatVersion
  hasClosures := loaded.closures.isSome
  convention := loaded.convention
  backend := Archive.backend

/-- Opens the store and asks for the report. -/
def report (i : Invocation) (l : Library Archive) (path : String) : Access Archive Report := do
  let store ← Store.openAt l path none
  i.command.report store

/-- What an invocation writes, and the disk after it. -/
def run (i : Invocation) (disk : Disk) : Except String String × Disk :=
  match ({} : InProcessLibrary).source.load {} with
  | .error h => (.error h.message, disk)
  | .ok loaded =>
    match i.command, i.store with
    | .info, _ => (.ok ((library loaded).report.render i.format), disk)
    | _, none => (.error UsageError.noStore.message, disk)
    | _, some path =>
      match i.report (library loaded) path { disk } with
      | (.ok report, archive) => (.ok (report.render i.format), archive.disk)
      | (.error h, archive) => (.error h.message, archive.disk)

end Invocation

end SymbolIndex
