import SymbolIndex.Proofs.Contents.Document
import SymbolIndex.Proofs.Json.Decoding

/-!
# Documents written by others

A document need not be the one that is written of the contents of a store. Whatever text describes
the contents is read as those contents.
-/

namespace SymbolIndex

open Codec

/-! ### How contents are described -/

/-- A fault of listening is described by its name. -/
def ListenFault.form : Form ListenFault where
  usual := .none
  Says j f := j = .text f.name
  Has := Wrong false NoNumber

/-- The attributes of a relation under their names. What is not mentioned is zero. -/
def RelationEntry.form : Form RelationEntry :=
  .record [
    Form.uint64.named "symbol" symbol,
    Form.uint64.named "roles" roles] {}

def OccurrenceEntry.form : Form OccurrenceEntry :=
  .record [
    Form.uint64.named "symbol" symbol,
    Form.uint64.named "roles" roles,
    Form.uint32.named "line" line,
    Form.uint32.named "column" column,
    RelationEntry.form.list.named "relations" relations] {}

def SymbolEntry.form : Form SymbolEntry :=
  .record [
    Form.text.named "name" name,
    Form.text.named "usr" usr,
    Form.text.named "codegen_name" codegenName,
    Form.uint32.named "kind" kind,
    Form.uint32.named "sub_kind" subKind,
    Form.uint32.named "language" language,
    Form.uint64.named "properties" properties,
    Form.uint64.named "roles" roles,
    Form.uint64.named "related_roles" relatedRoles] {}

def RecordEntry.form : Form RecordEntry :=
  .record [
    Form.text.named "name" name,
    SymbolEntry.form.list.named "symbols" symbols,
    OccurrenceEntry.form.list.named "occurrences" occurrences] {}

def IncludeEntry.form : Form IncludeEntry :=
  .record [
    Form.text.named "source_path" sourcePath,
    Form.text.named "target_path" targetPath,
    Form.uint32.named "source_line" sourceLine] {}

def DependencyEntry.form : Form DependencyEntry :=
  .record [
    Form.uint32.named "kind" kind,
    Form.flag.named "is_system" isSystem,
    Form.text.named "file_path" filePath,
    Form.text.named "module_name" moduleName,
    Form.text.named "name" name] {}

/-- The attributes of a unit under their names. Its time stands as two numbers. -/
def UnitEntry.form : Form UnitEntry :=
  .record [
    Form.text.named "name" name,
    Form.text.named "provider_identifier" providerIdentifier,
    Form.text.named "provider_version" providerVersion,
    Form.int64.named "seconds" (·.modified.seconds),
    Form.int64.named "nanoseconds" (·.modified.nanoseconds),
    Form.flag.named "is_system" isSystem,
    Form.flag.named "is_module" isModule,
    Form.flag.named "is_debug" isDebug,
    Form.optionalText.named "main_file" mainFile,
    Form.text.named "module_name" moduleName,
    Form.text.named "working_dir" workingDir,
    Form.text.named "output_file" outputFile,
    Form.text.named "sysroot_path" sysrootPath,
    Form.text.named "target" target,
    DependencyEntry.form.list.named "dependencies" dependencies,
    IncludeEntry.form.list.named "includes" includes] {}

/-- A store is described by its units, its records and its fault of listening. -/
def StoreContents.form : Form StoreContents :=
  .record [
    UnitEntry.form.list.named "units" units,
    RecordEntry.form.list.named "records" records,
    ListenFault.form.named "listen_fault" listenFault] {}

/-! ### What the codecs read -/

/-- A fault is described by its name alone. The codec reads an object that names it, too, of which
the form says nothing. -/
theorem ListenFault.codec_obeys :
  ListenFault.codec.Obeys form
  where
  writes _ := rfl
  reads := by
    rintro j f rfl -
    exact codec_lawful.decode_encode f
  refuses := by
    rintro fault j ⟨⟩ <;> rfl

/-- The codec of a record obeys its form, attribute by attribute. -/
theorem RelationEntry.codec_obeys :
  RelationEntry.codec.Obeys form
  := by
  refine record_obeys (by decide) ?_ codec_lawful
  exact .cons (.mk uint64_obeys (fun _ _ => rfl) rfl) <|
    .cons (.mk uint64_obeys (fun _ _ => rfl) rfl) .nil

theorem OccurrenceEntry.codec_obeys :
  OccurrenceEntry.codec.Obeys form
  := by
  refine record_obeys (by decide) ?_ codec_lawful
  exact .cons (.mk uint64_obeys (fun _ _ => rfl) rfl) <|
    .cons (.mk uint64_obeys (fun _ _ => rfl) rfl) <|
    .cons (.mk uint32_obeys (fun _ _ => rfl) rfl) <|
    .cons (.mk uint32_obeys (fun _ _ => rfl) rfl) <|
    .cons (.mk (list_obeys RelationEntry.codec_obeys) (fun _ _ => rfl) rfl) .nil

theorem SymbolEntry.codec_obeys :
  SymbolEntry.codec.Obeys form
  := by
  refine record_obeys (by decide) ?_ codec_lawful
  exact .cons (.mk text_obeys (fun _ _ => rfl) rfl) <|
    .cons (.mk text_obeys (fun _ _ => rfl) rfl) <|
    .cons (.mk text_obeys (fun _ _ => rfl) rfl) <|
    .cons (.mk uint32_obeys (fun _ _ => rfl) rfl) <|
    .cons (.mk uint32_obeys (fun _ _ => rfl) rfl) <|
    .cons (.mk uint32_obeys (fun _ _ => rfl) rfl) <|
    .cons (.mk uint64_obeys (fun _ _ => rfl) rfl) <|
    .cons (.mk uint64_obeys (fun _ _ => rfl) rfl) <|
    .cons (.mk uint64_obeys (fun _ _ => rfl) rfl) .nil

theorem RecordEntry.codec_obeys :
  RecordEntry.codec.Obeys form
  := by
  refine record_obeys (by decide) ?_ codec_lawful
  exact .cons (.mk text_obeys (fun _ _ => rfl) rfl) <|
    .cons (.mk (list_obeys SymbolEntry.codec_obeys) (fun _ _ => rfl) rfl) <|
    .cons (.mk (list_obeys OccurrenceEntry.codec_obeys) (fun _ _ => rfl) rfl) .nil

theorem IncludeEntry.codec_obeys :
  IncludeEntry.codec.Obeys form
  := by
  refine record_obeys (by decide) ?_ codec_lawful
  exact .cons (.mk text_obeys (fun _ _ => rfl) rfl) <|
    .cons (.mk text_obeys (fun _ _ => rfl) rfl) <|
    .cons (.mk uint32_obeys (fun _ _ => rfl) rfl) .nil

theorem DependencyEntry.codec_obeys :
  DependencyEntry.codec.Obeys form
  := by
  refine record_obeys (by decide) ?_ codec_lawful
  exact .cons (.mk uint32_obeys (fun _ _ => rfl) rfl) <|
    .cons (.mk flag_obeys (fun _ _ => rfl) rfl) <|
    .cons (.mk text_obeys (fun _ _ => rfl) rfl) <|
    .cons (.mk text_obeys (fun _ _ => rfl) rfl) <|
    .cons (.mk text_obeys (fun _ _ => rfl) rfl) .nil

theorem UnitEntry.codec_obeys :
  UnitEntry.codec.Obeys form
  := by
  refine record_obeys (by decide) ?_ codec_lawful
  exact .cons (.mk text_obeys (fun _ _ => rfl) rfl) <|
    .cons (.mk text_obeys (fun _ _ => rfl) rfl) <|
    .cons (.mk text_obeys (fun _ _ => rfl) rfl) <|
    .cons (.mk int64_obeys (fun _ _ => rfl) rfl) <|
    .cons (.mk int64_obeys (fun _ _ => rfl) rfl) <|
    .cons (.mk flag_obeys (fun _ _ => rfl) rfl) <|
    .cons (.mk flag_obeys (fun _ _ => rfl) rfl) <|
    .cons (.mk flag_obeys (fun _ _ => rfl) rfl) <|
    .cons (.mk optionalText_obeys (fun _ _ => rfl) rfl) <|
    .cons (.mk text_obeys (fun _ _ => rfl) rfl) <|
    .cons (.mk text_obeys (fun _ _ => rfl) rfl) <|
    .cons (.mk text_obeys (fun _ _ => rfl) rfl) <|
    .cons (.mk text_obeys (fun _ _ => rfl) rfl) <|
    .cons (.mk text_obeys (fun _ _ => rfl) rfl) <|
    .cons (.mk (list_obeys DependencyEntry.codec_obeys) (fun _ _ => rfl) rfl) <|
    .cons (.mk (list_obeys IncludeEntry.codec_obeys) (fun _ _ => rfl) rfl) .nil

/-- What is said of a store at any depth is read by the codec of the whole store. -/
theorem StoreContents.codec_obeys :
  StoreContents.codec.Obeys form
  := by
  refine record_obeys (by decide) ?_ codec_lawful
  exact .cons (.mk (list_obeys UnitEntry.codec_obeys) (fun _ _ => rfl) rfl) <|
    .cons (.mk (list_obeys RecordEntry.codec_obeys) (fun _ _ => rfl) rfl) <|
    .cons (.mk ListenFault.codec_obeys (fun _ _ => rfl) rfl) .nil

namespace StoreContents

variable {s : String} {j : Json}

/-- The document of contents describes them, and has no fault. -/
theorem written_document (c : StoreContents) :
  Json.Written c.document.toList (codec.encode c) ∧ form.Says (codec.encode c) c
    ∧ ∀ fault, ¬ form.Has fault (codec.encode c)
  := by
  refine ⟨(codec_lawful.plain c).written_print, codec_obeys.writes c, fun fault h => ?_⟩
  have hread := codec_lawful.decode_encode c
  rw [codec_obeys.refuses h] at hread
  cases hread

/-- A text that describes contents is read as them, if it has no minus sign before a zero. A text
with a fault is not read at all. -/
theorem ofDocument?_written (h : Json.Written s.toList j) :
  (∀ c, form.Says j c → ¬ form.Has .signedZero j → ofDocument? s = some c)
    ∧ ∀ fault, form.Has fault j → ofDocument? s = none
  := by
  have hread : ofDocument? s = codec.decode j := by rw [ofDocument?, h.parse, Option.bind_some]
  rw [hread]
  exact ⟨fun _ => codec_obeys.reads, fun _ => codec_obeys.refuses⟩

/-- The description of a single unit that mentions only its seconds. -/
def ofSeconds (seconds : Json) : Json :=
  .fields [("units", .array [.fields [("seconds", seconds)]])]

/-- The text of this description without blanks. -/
def textOfSeconds (number : String) : String :=
  "\x7b\"units\":[\x7b\"seconds\":" ++ (number ++ "\x7d]\x7d")

/-- The text is written around the numeral. -/
theorem written_ofSeconds {number : String} {seconds : Json}
    (h : Json.Written number.toList seconds) :
  Json.Written (textOfSeconds number).toList (ofSeconds seconds)
  := by
  have hunit := Json.written_compact [("seconds", number.toList, seconds)]
    (by simpa using h)
  have hunits := Json.Written.array [(_, _)] Json.blanks_nil
    Json.blanks_nil (by simpa using hunit)
  have hall := Json.written_compact [("units", _, _)] (by simpa using hunits)
  unfold textOfSeconds
  simpa [ofSeconds, Json.separated, Json.printString, Json.printChar] using hall

/-- All that is not mentioned is as usual. -/
theorem says_ofSeconds {seconds : Json} {n : Int64} (h : Form.int64.Says seconds n) :
  form.Says (ofSeconds seconds) { units := [{ modified := { seconds := n } }] }
  := by
  have hunit : UnitEntry.form.Says (.fields [("seconds", seconds)])
      { modified := { seconds := n } } := by
    refine ⟨_, rfl, ?_⟩
    constructor
    case keys => simp
    case once => simp [Form.named, times]
    case values => simpa [Form.named, UnitEntry.form] using h
    case missing =>
        simp [Form.named, times, Form.text, Form.flag, Form.optionalText, Form.int64, Form.integer,
          Form.list]
  refine ⟨_, rfl, ?_⟩
  constructor
  case keys => simp
  case once => simp [Form.named, times]
  case values => simpa [Form.named, Form.list] using hunit
  case missing => simp [Form.named, times, Form.list, ListenFault.form]

/-- A description as others may write it. Its members stand in an order of their own, some of them
are unknown, and what is as usual is not mentioned. -/
def foreign (seconds : Json) : Json :=
  .fields [("listen_fault", .text "fail_without_error"), ("size", .decimal ['1', '.', '5']),
    ("units", .array [.fields [("seconds", seconds), ("tags", .null), ("name", .text "u")]])]

/-- The text of this description, with some blanks in it. -/
def textOfForeign (number : String) : String :=
  "\x7b\"listen_fault\":\"fail_without_error\",\"size\":1.5,\"units\":[ \x7b\"seconds\":"
    ++ (number ++ ",\"tags\":null,\"name\":\"u\"\x7d]\x7d")

/-- The text is written around the numeral, with blanks before the only unit. -/
theorem written_foreign {number : String} {seconds : Json}
    (h : Json.Written number.toList seconds) :
  Json.Written (textOfForeign number).toList (foreign seconds)
  := by
  have htext (s : String) : Json.Written (Json.printString (some s)) (.text s) :=
    .string (Json.stringForm_printString s)
  have hdigits : Json.Digits ['5'] := ⟨nofun, List.forall_mem_singleton.mpr rfl⟩
  have hsize : Json.Written ['1', '.', '5'] (.decimal ['1', '.', '5']) :=
    .decimal false 1 (.point hdigits (.inl rfl))
  have hunit := Json.written_compact
    [("seconds", number.toList, seconds), ("tags", _, .null), ("name", _, .text "u")]
    (by simpa using ⟨h, .null, htext "u"⟩)
  have hunits := Json.Written.array [(_, _)] Json.blanks_blank
    Json.blanks_nil (by simpa using hunit)
  have hall := Json.written_compact
    [("listen_fault", _, .text "fail_without_error"), ("size", _, .decimal ['1', '.', '5']),
      ("units", _, _)]
    (by simpa using ⟨htext "fail_without_error", hsize, hunits⟩)
  unfold textOfForeign
  simpa [foreign, Json.separated, Json.printString, Json.printChar] using hall

/-- The unknown members say nothing, and the order of the others makes no difference. -/
theorem says_foreign {seconds : Json} {n : Int64} (h : Form.int64.Says seconds n) :
  form.Says (foreign seconds)
    { units := [{ name := "u", modified := { seconds := n } }], listenFault := .failWithoutError }
  := by
  have hunit : UnitEntry.form.Says
      (.fields [("seconds", seconds), ("tags", .null), ("name", .text "u")])
      { name := "u", modified := { seconds := n } } := by
    refine ⟨_, rfl, ?_⟩
    constructor
    case keys => simp
    case once => simp [Form.named, times]
    case values => simpa [Form.named, UnitEntry.form, Form.text] using h
    case missing =>
        simp [Form.named, times, Form.text, Form.flag, Form.optionalText, Form.int64, Form.integer,
          Form.list]
  refine ⟨_, rfl, ?_⟩
  constructor
  case keys => simp
  case once => simp [Form.named, times]
  case values => simpa [Form.named, Form.list, ListenFault.form, ListenFault.name] using hunit
  case missing => simp [Form.named, times, Form.list, ListenFault.form]

/-- A fault of the numeral is a fault of the whole description. -/
theorem has_foreign {fault : Fault} {seconds : Json} (h : Form.int64.Has fault seconds) :
  form.Has fault (foreign seconds)
  := by
  have hunit : UnitEntry.form.Has fault
      (.fields [("seconds", seconds), ("tags", .null), ("name", .text "u")]) :=
    .member (.tail _ (.tail _ (.tail _ (.head _)))) (.head _) h
  exact .member (.head _) (.tail _ (.tail _ (.head _))) (.inr ⟨_, rfl, _, .head _, hunit⟩)

/-- Seconds before the epoch are read wherever they stand. A number with an exponent is not read,
although its value is whole. -/
theorem ofDocument?_written_seconds :
  (Json.Written (textOfForeign "-1").toList (foreign (.integer true 1))
      ∧ ofDocument? (textOfForeign "-1") = some {
          units := [{ name := "u", modified := ⟨-1, 0⟩ }], listenFault := .failWithoutError })
    ∧ Json.Written (textOfForeign "1e3").toList (foreign (.decimal ['1', 'e', '3']))
    ∧ ofDocument? (textOfForeign "1e3") = none
  := by
  have hminus : Json.Written (textOfForeign "-1").toList (foreign (.integer true 1)) :=
    written_foreign (.integer true 1)
  have hzero : ¬ form.Has .signedZero (foreign (.integer true 1)) := by
    intro h
    have hread : (codec.decode (foreign (.integer true 1))).isSome := by decide +kernel
    rw [codec_obeys.refuses h] at hread
    cases hread
  have hdigits : Json.Digits ['3'] := ⟨nofun, List.forall_mem_singleton.mpr rfl⟩
  have hexponent : Json.Fraction ['e', '3'] := .exponent (.mk (.inl rfl) (.inl rfl) hdigits)
  have hthousand : Json.Written (textOfForeign "1e3").toList
      (foreign (.decimal ['1', 'e', '3'])) :=
    written_foreign (.decimal false 1 hexponent)
  exact ⟨⟨hminus, (ofDocument?_written hminus).1 _ (says_foreign ⟨true, 1, rfl, rfl⟩) hzero⟩,
    hthousand, (ofDocument?_written hthousand).2 .fraction (has_foreign (.fraction _))⟩

/-- A zero is not read if a minus sign stands before it, although the text gives that number. -/
theorem ofDocument?_signedZero :
  Json.Written (textOfSeconds "-0").toList (ofSeconds (.integer true 0))
    ∧ form.Says (ofSeconds (.integer true 0)) { units := [{}] }
    ∧ ofDocument? (textOfSeconds "-0") = none
  := by
  have hzero : Form.int64.Says (.integer true 0) 0 := ⟨true, 0, rfl, rfl⟩
  exact ⟨written_ofSeconds (.integer true 0), says_ofSeconds hzero, rfl⟩

end StoreContents

end SymbolIndex
