import SymbolIndex.Contents.Basic
import SymbolIndex.Json.Codec
import SymbolIndex.Json.Reader
import SymbolIndex.Json.Printer

/-!
# Store documents

The contents of a store are kept as one document. `StoreContents.document` writes it and
`StoreContents.ofDocument?` reads it.
-/

namespace SymbolIndex

open Codec

namespace ListenFault

/-- The name by which a document tells of the fault. -/
def name : ListenFault → String
  | none => "none"
  | failWithoutError => "fail_without_error"
  | succeedWithError => "succeed_with_error"

def ofName? (s : String) : Option ListenFault :=
  [none, failWithoutError, succeedWithError].find? fun f => f.name == s

/-- A fault is written as its name. It is also read from an object that gives its name a null. -/
def codec : Codec ListenFault where
  encode f := Json.text f.name
  decode
    | .string s => s.bind ofName?
    | .object [(s, .null)] => s.bind ofName?
    | _ => Option.none

end ListenFault

def DependencyEntry.codec : Codec DependencyEntry :=
  record [
    uint32.field "kind" kind fun v d => { d with kind := v },
    flag.field "is_system" isSystem fun v d => { d with isSystem := v },
    text.field "file_path" filePath fun v d => { d with filePath := v },
    text.field "module_name" moduleName fun v d => { d with moduleName := v },
    text.field "name" name fun v d => { d with name := v }] {}

def IncludeEntry.codec : Codec IncludeEntry :=
  record [
    text.field "source_path" sourcePath fun v i => { i with sourcePath := v },
    text.field "target_path" targetPath fun v i => { i with targetPath := v },
    uint32.field "source_line" sourceLine fun v i => { i with sourceLine := v }] {}

/-- The time of a unit is written as two numbers beside its other attributes. -/
def UnitEntry.codec : Codec UnitEntry :=
  record [
    text.field "name" name fun v u => { u with name := v },
    text.field "provider_identifier" providerIdentifier fun v u =>
      { u with providerIdentifier := v },
    text.field "provider_version" providerVersion fun v u => { u with providerVersion := v },
    int64.field "seconds" (·.modified.seconds) fun v u =>
      { u with modified := { u.modified with seconds := v } },
    int64.field "nanoseconds" (·.modified.nanoseconds) fun v u =>
      { u with modified := { u.modified with nanoseconds := v } },
    flag.field "is_system" isSystem fun v u => { u with isSystem := v },
    flag.field "is_module" isModule fun v u => { u with isModule := v },
    flag.field "is_debug" isDebug fun v u => { u with isDebug := v },
    text.optional.field "main_file" mainFile fun v u => { u with mainFile := v },
    text.field "module_name" moduleName fun v u => { u with moduleName := v },
    text.field "working_dir" workingDir fun v u => { u with workingDir := v },
    text.field "output_file" outputFile fun v u => { u with outputFile := v },
    text.field "sysroot_path" sysrootPath fun v u => { u with sysrootPath := v },
    text.field "target" target fun v u => { u with target := v },
    DependencyEntry.codec.list.field "dependencies" dependencies fun v u =>
      { u with dependencies := v },
    IncludeEntry.codec.list.field "includes" includes fun v u => { u with includes := v }] {}

def SymbolEntry.codec : Codec SymbolEntry :=
  record [
    text.field "name" name fun v s => { s with name := v },
    text.field "usr" usr fun v s => { s with usr := v },
    text.field "codegen_name" codegenName fun v s => { s with codegenName := v },
    uint32.field "kind" kind fun v s => { s with kind := v },
    uint32.field "sub_kind" subKind fun v s => { s with subKind := v },
    uint32.field "language" language fun v s => { s with language := v },
    uint64.field "properties" properties fun v s => { s with properties := v },
    uint64.field "roles" roles fun v s => { s with roles := v },
    uint64.field "related_roles" relatedRoles fun v s => { s with relatedRoles := v }] {}

def RelationEntry.codec : Codec RelationEntry :=
  record [
    uint64.field "symbol" symbol fun v r => { r with symbol := v },
    uint64.field "roles" roles fun v r => { r with roles := v }] {}

def OccurrenceEntry.codec : Codec OccurrenceEntry :=
  record [
    uint64.field "symbol" symbol fun v o => { o with symbol := v },
    uint64.field "roles" roles fun v o => { o with roles := v },
    uint32.field "line" line fun v o => { o with line := v },
    uint32.field "column" column fun v o => { o with column := v },
    RelationEntry.codec.list.field "relations" relations fun v o => { o with relations := v }] {}

def RecordEntry.codec : Codec RecordEntry :=
  record [
    text.field "name" name fun v r => { r with name := v },
    SymbolEntry.codec.list.field "symbols" symbols fun v r => { r with symbols := v },
    OccurrenceEntry.codec.list.field "occurrences" occurrences fun v r =>
      { r with occurrences := v }] {}

namespace StoreContents

/-- A document has the units, the records and the fault of listening. Each may be missing. -/
def codec : Codec StoreContents :=
  record [
    UnitEntry.codec.list.field "units" units fun v c => { c with units := v },
    RecordEntry.codec.list.field "records" records fun v c => { c with records := v },
    ListenFault.codec.field "listen_fault" listenFault fun v c => { c with listenFault := v }] {}

/-- The document that holds the contents. -/
def document (c : StoreContents) : String := (codec.encode c).print

/-- The contents that a document holds, if it is one. -/
def ofDocument? (s : String) : Option StoreContents := (Json.parse s).bind codec.decode

end StoreContents

end SymbolIndex
