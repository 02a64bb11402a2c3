import SymbolIndex.Catalogue
import SymbolIndex.Error

/-!
# Tables of entry points

The entry points of a loaded library are kept in two tables, under the names of their operations.
A table says for itself which names it has. It is put together from the symbols that have been
looked up, and cannot be if one of its names is not among them.
-/

namespace SymbolIndex

namespace EntryTable

/-- The names in the table of the operations that every library offers. -/
def required : List String := [
  "error_get_description", "error_dispose", "format_version", "version",
  "creation_options_create", "creation_options_dispose", "creation_options_add_prefix_mapping",
  "store_create", "store_create_with_options", "store_dispose", "store_units_apply_f",
  "unit_event_notification_get_events_count", "unit_event_notification_get_event",
  "unit_event_notification_is_initial", "unit_event_get_kind", "unit_event_get_unit_name",
  "store_set_unit_event_handler_f", "store_start_unit_event_listening",
  "store_stop_unit_event_listening", "store_discard_unit", "store_discard_record",
  "store_purge_stale_data", "store_get_unit_name_from_output_path",
  "store_get_unit_modification_time", "symbol_get_language", "symbol_get_kind",
  "symbol_get_subkind", "symbol_get_properties", "symbol_get_roles", "symbol_get_related_roles",
  "symbol_get_name", "symbol_get_usr", "symbol_get_codegen_name", "symbol_relation_get_roles",
  "symbol_relation_get_symbol", "occurrence_get_symbol", "occurrence_relations_apply_f",
  "occurrence_get_roles", "occurrence_get_line_col", "record_reader_create",
  "record_reader_dispose", "record_reader_search_symbols_f", "record_reader_symbols_apply_f",
  "record_reader_occurrences_apply_f", "record_reader_occurrences_in_line_range_apply_f",
  "record_reader_occurrences_of_symbols_apply_f", "unit_reader_create", "unit_reader_dispose",
  "unit_reader_get_provider_identifier", "unit_reader_get_provider_version",
  "unit_reader_get_modification_time", "unit_reader_is_system_unit",
  "unit_reader_is_module_unit", "unit_reader_is_debug_compilation", "unit_reader_has_main_file",
  "unit_reader_get_main_file", "unit_reader_get_module_name", "unit_reader_get_working_dir",
  "unit_reader_get_output_file", "unit_reader_get_sysroot_path", "unit_reader_get_target",
  "unit_dependency_get_kind", "unit_dependency_is_system", "unit_dependency_get_filepath",
  "unit_dependency_get_modulename", "unit_dependency_get_name", "unit_include_get_source_path",
  "unit_include_get_target_path", "unit_include_get_source_line",
  "unit_reader_dependencies_apply_f", "unit_reader_includes_apply_f"]

/-- The names in the table of the operations for closures. -/
def closures : List String := [
  "store_units_apply", "store_set_unit_event_handler", "occurrence_relations_apply",
  "record_reader_search_symbols", "record_reader_symbols_apply",
  "record_reader_occurrences_apply", "record_reader_occurrences_in_line_range_apply",
  "record_reader_occurrences_of_symbols_apply", "unit_reader_dependencies_apply",
  "unit_reader_includes_apply"]

/-- One entry of a table. -/
def entry {α : Type} (resolved : List (String × α)) (name : String) :
    Except LoadError (String × α) :=
  match resolved.lookup name with
  | some a => .ok (name, a)
  | none => .error (.missingSymbol (exportedSymbol name))

/-- The table with the given names. -/
def assemble {α : Type} (resolved : List (String × α)) :
    List String → Except LoadError (List (String × α))
  | [] => .ok []
  | name :: names =>
    match entry resolved name with
    | .error e => .error e
    | .ok a =>
      match assemble resolved names with
      | .error e => .error e
      | .ok as => .ok (a :: as)

end EntryTable

end SymbolIndex
