import SymbolIndex.Contents.Basic
import SymbolIndex.Contents.UnitName

/-!
# Making contents

Units, records and symbols as a compiler would write them, and a small store made of them.
-/

namespace SymbolIndex

namespace DependencyEntry

/-- A dependency on the thing of the given kind and name. -/
def of (kind : DependencyKind) (name filePath : String) : DependencyEntry :=
  { kind := Vocabulary.code kind, name, filePath }

/-- A dependency on a file that has no record. -/
def onFile (filePath : String) (isSystem : Bool) (moduleName : String) : DependencyEntry :=
  { of .file "" filePath with isSystem, moduleName }

end DependencyEntry

namespace UnitEntry

/-- The unit written for an output file. -/
def forOutput (outputFile : String) : UnitEntry :=
  { name := unitName outputFile
    providerIdentifier := "clang"
    providerVersion := "17.0.0"
    modified := ⟨1700000000, 0⟩
    workingDir := "/build"
    outputFile
    target := "x86_64-unknown-linux-gnu" }

def withDependency (u : UnitEntry) (d : DependencyEntry) : UnitEntry :=
  { u with dependencies := u.dependencies ++ [d] }

def withInclude (u : UnitEntry) (sourcePath targetPath : String) (sourceLine : UInt32) :
    UnitEntry :=
  { u with includes := u.includes ++ [⟨sourcePath, targetPath, sourceLine⟩] }

end UnitEntry

namespace SymbolEntry

/-- A symbol of a C file. -/
def ofC (name usr : String) (kind : SymbolKind) : SymbolEntry :=
  { name, usr, kind := Vocabulary.code kind, language := Vocabulary.code SymbolLanguage.c }

def withRoles (s : SymbolEntry) (roles : Roles) : SymbolEntry := { s with roles := roles.bits }

end SymbolEntry

namespace OccurrenceEntry

def placed (symbol : UInt64) (roles : Roles) (line column : UInt32) : OccurrenceEntry :=
  { symbol, roles := roles.bits, line, column }

def withRelation (o : OccurrenceEntry) (symbol : UInt64) (roles : Roles) : OccurrenceEntry :=
  { o with relations := o.relations ++ [⟨symbol, roles.bits⟩] }

end OccurrenceEntry

namespace StoreContents

/-- The unit of a small source file. -/
def sampleUtil : UnitEntry :=
  { UnitEntry.forOutput "/build/util.o" with
    mainFile := some "/src/util.c"
    modified := ⟨1700000100, 500⟩
    dependencies := [.of .record "util.c-4d5e6f" "/src/util.c"]
    includes := [⟨"/src/util.c", "/src/util.h", 1⟩] }

/-- The unit of the main source file. -/
def sampleMain : UnitEntry :=
  { UnitEntry.forOutput "/build/main.o" with
    mainFile := some "/src/main.c"
    modified := ⟨1700000200, 250⟩
    sysrootPath := "/sdk"
    dependencies := [
      .of .record "main.c-1a2b3c" "/src/main.c",
      .of .unit (unitName "/build/util.o") "/build/util.o",
      .onFile "/sdk/usr/include/stdio.h" true "Darwin"]
    includes := [
      ⟨"/src/main.c", "/src/util.h", 2⟩,
      ⟨"/src/main.c", "/sdk/usr/include/stdio.h", 1⟩] }

/-- The unit of a system library. -/
def sampleSystem : UnitEntry :=
  { UnitEntry.forOutput "/sdk/lib/libc.o" with
    isSystem := true
    moduleName := "libc"
    sysrootPath := "/sdk" }

/-- The record of the main source file: symbols 0 to 2 are a function, a helper and a counter. -/
def sampleMainRecord : RecordEntry where
  name := "main.c-1a2b3c"
  symbols := [
    { (SymbolEntry.ofC "main" "c:@F@main" .freeFunction).withRoles .definition with
      codegenName := "_main" },
    (SymbolEntry.ofC "helper" "c:@F@helper" .freeFunction).withRoles
      (.declaration ||| .reference ||| .call),
    (SymbolEntry.ofC "counter" "c:@counter" .variableName).withRoles
      (.definition ||| .reference ||| .write)]
  occurrences := [
    .placed 1 .declaration 1 6,
    .placed 2 .definition 3 5,
    .placed 0 .definition 10 5,
    (OccurrenceEntry.placed 1 (.reference ||| .call ||| .calledBy) 12 3).withRelation 0 .calledBy,
    (OccurrenceEntry.placed 2 (.reference ||| .write ||| .containedBy) 14 3).withRelation 0
      .containedBy,
    .placed 1 .reference 15 10,
    .placed 2 .reference 20 12]

/-- Two units of the user and one of the system, and three records, the last of them stale. The
units are not in the order of their names. -/
def sample : StoreContents where
  units := [sampleUtil, sampleMain, sampleSystem]
  records := [
    sampleMainRecord,
    { name := "util.c-4d5e6f"
      symbols := [(SymbolEntry.ofC "helper" "c:@F@helper" .freeFunction).withRoles .definition]
      occurrences := [.placed 0 .definition 4 6] },
    { name := "orphan.c-777777"
      symbols := [SymbolEntry.ofC "unused" "c:@F@unused" .freeFunction] }]

end StoreContents

end SymbolIndex
