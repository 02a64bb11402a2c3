/-!
# The catalogue of operations

Every operation that a library can offer, with the shape of its parameters and of its result, in
the order of the library's own table. An operation that takes a closure exists only in libraries
built for closures, and has a twin that takes a function and a context instead.
-/

namespace SymbolIndex

/-- What an opaque handle stands for. -/
inductive HandleKind where
  | error
  | store
  | creationOptions
  | unitEventNotification
  | unitEvent
  | symbol
  | symbolRelation
  | occurrence
  | recordReader
  | unitReader
  | unitDependency
  | unitInclude
deriving DecidableEq

/-- The shape of a parameter or of a result. -/
inductive Shape where
  | void
  | bool
  | unsigned
  | size
  | u64
  | i64Out
  | unsignedOut
  | cString
  | charBuffer
  | stringRef
  | handle (kind : HandleKind)
  | handleArray (kind : HandleKind)
  | errorOut
  | listenOptions
  | context
  | function
  | block
deriving DecidableEq

structure Operation where
  name : String
  parameters : List Shape
  result : Shape
  /-- The operation exists only in libraries built for closures. -/
  optional : Bool

/-- The symbol under which a library exports the operation of the given name. -/
def exportedSymbol (name : String) : String := "indexstore_" ++ name

/-- The symbol of the class that a library built for closures gives to a closure. -/
def closureClassSymbol : String := "_NSConcreteStackBlock"

namespace Operation

def symbol (o : Operation) : String := exportedSymbol o.name

def takesClosure (o : Operation) : Bool := o.parameters.contains .block

/-- An operation that every library offers. -/
def plain (name : String) (parameters : List Shape) (result : Shape) : Operation :=
  ⟨name, parameters, result, false⟩

/-- An operation that only libraries built for closures offer. -/
def closureForm (name : String) (parameters : List Shape) (result : Shape) : Operation :=
  ⟨name, parameters, result, true⟩

/-- Every operation, in the order of the library's table. -/
def catalogue : List Operation := [
  plain "error_get_description" [.handle .error] .cString,
  plain "error_dispose" [.handle .error] .void,
  plain "format_version" [] .unsigned,
  plain "version" [] .unsigned,
  plain "creation_options_create" [] (.handle .creationOptions),
  plain "creation_options_dispose" [.handle .creationOptions] .void,
  plain "creation_options_add_prefix_mapping" [.handle .creationOptions, .cString, .cString] .void,
  plain "store_create" [.cString, .errorOut] (.handle .store),
  plain "store_create_with_options"
    [.cString, .handle .creationOptions, .errorOut] (.handle .store),
  plain "store_dispose" [.handle .store] .void,
  closureForm "store_units_apply" [.handle .store, .unsigned, .block] .bool,
  plain "store_units_apply_f" [.handle .store, .unsigned, .context, .function] .bool,
  plain "unit_event_notification_get_events_count" [.handle .unitEventNotification] .size,
  plain "unit_event_notification_get_event"
    [.handle .unitEventNotification, .size] (.handle .unitEvent),
  plain "unit_event_notification_is_initial" [.handle .unitEventNotification] .bool,
  plain "unit_event_get_kind" [.handle .unitEvent] .unsigned,
  plain "unit_event_get_unit_name" [.handle .unitEvent] .stringRef,
  closureForm "store_set_unit_event_handler" [.handle .store, .block] .void,
  plain "store_set_unit_event_handler_f" [.handle .store, .context, .function, .function] .void,
  plain "store_start_unit_event_listening" [.handle .store, .listenOptions, .size, .errorOut] .bool,
  plain "store_stop_unit_event_listening" [.handle .store] .void,
  plain "store_discard_unit" [.handle .store, .cString] .void,
  plain "store_discard_record" [.handle .store, .cString] .void,
  plain "store_purge_stale_data" [.handle .store] .void,
  plain "store_get_unit_name_from_output_path" [.handle .store, .cString, .charBuffer, .size] .size,
  plain "store_get_unit_modification_time"
    [.handle .store, .cString, .i64Out, .i64Out, .errorOut] .bool,
  plain "symbol_get_language" [.handle .symbol] .unsigned,
  plain "symbol_get_kind" [.handle .symbol] .unsigned,
  plain "symbol_get_subkind" [.handle .symbol] .unsigned,
  plain "symbol_get_properties" [.handle .symbol] .u64,
  plain "symbol_get_roles" [.handle .symbol] .u64,
  plain "symbol_get_related_roles" [.handle .symbol] .u64,
  plain "symbol_get_name" [.handle .symbol] .stringRef,
  plain "symbol_get_usr" [.handle .symbol] .stringRef,
  plain "symbol_get_codegen_name" [.handle .symbol] .stringRef,
  plain "symbol_relation_get_roles" [.handle .symbolRelation] .u64,
  plain "symbol_relation_get_symbol" [.handle .symbolRelation] (.handle .symbol),
  plain "occurrence_get_symbol" [.handle .occurrence] (.handle .symbol),
  closureForm "occurrence_relations_apply" [.handle .occurrence, .block] .bool,
  plain "occurrence_relations_apply_f" [.handle .occurrence, .context, .function] .bool,
  plain "occurrence_get_roles" [.handle .occurrence] .u64,
  plain "occurrence_get_line_col" [.handle .occurrence, .unsignedOut, .unsignedOut] .void,
  plain "record_reader_create" [.handle .store, .cString, .errorOut] (.handle .recordReader),
  plain "record_reader_dispose" [.handle .recordReader] .void,
  closureForm "record_reader_search_symbols" [.handle .recordReader, .block, .block] .bool,
  closureForm "record_reader_symbols_apply" [.handle .recordReader, .bool, .block] .bool,
  closureForm "record_reader_occurrences_apply" [.handle .recordReader, .block] .bool,
  closureForm "record_reader_occurrences_in_line_range_apply"
    [.handle .recordReader, .unsigned, .unsigned, .block] .bool,
  closureForm "record_reader_occurrences_of_symbols_apply"
    [.handle .recordReader, .handleArray .symbol, .size, .handleArray .symbol, .size, .block] .bool,
  plain "record_reader_search_symbols_f"
    [.handle .recordReader, .context, .function, .context, .function] .bool,
  plain "record_reader_symbols_apply_f" [.handle .recordReader, .bool, .context, .function] .bool,
  plain "record_reader_occurrences_apply_f" [.handle .recordReader, .context, .function] .bool,
  plain "record_reader_occurrences_in_line_range_apply_f"
    [.handle .recordReader, .unsigned, .unsigned, .context, .function] .bool,
  plain "record_reader_occurrences_of_symbols_apply_f"
    [.handle .recordReader, .handleArray .symbol, .size, .handleArray .symbol, .size, .context,
      .function] .bool,
  plain "unit_reader_create" [.handle .store, .cString, .errorOut] (.handle .unitReader),
  plain "unit_reader_dispose" [.handle .unitReader] .void,
  plain "unit_reader_get_provider_identifier" [.handle .unitReader] .stringRef,
  plain "unit_reader_get_provider_version" [.handle .unitReader] .stringRef,
  plain "unit_reader_get_modification_time" [.handle .unitReader, .i64Out, .i64Out] .void,
  plain "unit_reader_is_system_unit" [.handle .unitReader] .bool,
  plain "unit_reader_is_module_unit" [.handle .unitReader] .bool,
  plain "unit_reader_is_debug_compilation" [.handle .unitReader] .bool,
  plain "unit_reader_has_main_file" [.handle .unitReader] .bool,
  plain "unit_reader_get_main_file" [.handle .unitReader] .stringRef,
  plain "unit_reader_get_module_name" [.handle .unitReader] .stringRef,
  plain "unit_reader_get_working_dir" [.handle .unitReader] .stringRef,
  plain "unit_reader_get_output_file" [.handle .unitReader] .stringRef,
  plain "unit_reader_get_sysroot_path" [.handle .unitReader] .stringRef,
  plain "unit_reader_get_target" [.handle .unitReader] .stringRef,
  plain "unit_dependency_get_kind" [.handle .unitDependency] .unsigned,
  plain "unit_dependency_is_system" [.handle .unitDependency] .bool,
  plain "unit_dependency_get_filepath" [.handle .unitDependency] .stringRef,
  plain "unit_dependency_get_modulename" [.handle .unitDependency] .stringRef,
  plain "unit_dependency_get_name" [.handle .unitDependency] .stringRef,
  plain "unit_include_get_source_path" [.handle .unitInclude] .stringRef,
  plain "unit_include_get_target_path" [.handle .unitInclude] .stringRef,
  plain "unit_include_get_source_line" [.handle .unitInclude] .unsigned,
  closureForm "unit_reader_dependencies_apply" [.handle .unitReader, .block] .bool,
  closureForm "unit_reader_includes_apply" [.handle .unitReader, .block] .bool,
  plain "unit_reader_dependencies_apply_f" [.handle .unitReader, .context, .function] .bool,
  plain "unit_reader_includes_apply_f" [.handle .unitReader, .context, .function] .bool]

/-- The operations that every library must offer. -/
def requiredOnes : List Operation := catalogue.filter fun o => !o.optional

/-- The operations that only libraries built for closures offer. -/
def optionalOnes : List Operation := catalogue.filter Operation.optional

/-- The operation of the given name. -/
def named? (name : String) : Option Operation := catalogue.find? fun o => o.name == name

end Operation

def HandleKind.text : HandleKind → String
  | error => "Error"
  | store => "Store"
  | creationOptions => "CreationOptions"
  | unitEventNotification => "UnitEventNotification"
  | unitEvent => "UnitEvent"
  | symbol => "Symbol"
  | symbolRelation => "SymbolRelation"
  | occurrence => "Occurrence"
  | recordReader => "RecordReader"
  | unitReader => "UnitReader"
  | unitDependency => "UnitDependency"
  | unitInclude => "UnitInclude"

def Shape.text : Shape → String
  | void => "Void"
  | bool => "Bool"
  | unsigned => "Unsigned"
  | size => "Size"
  | u64 => "U64"
  | i64Out => "I64Out"
  | unsignedOut => "UnsignedOut"
  | cString => "CString"
  | charBuffer => "CharBuffer"
  | stringRef => "StringRef"
  | handle kind => "Handle(" ++ kind.text ++ ")"
  | handleArray kind => "HandleArray(" ++ kind.text ++ ")"
  | errorOut => "ErrorOut"
  | listenOptions => "ListenOptions"
  | context => "Context"
  | function => "Function"
  | block => "Block"

end SymbolIndex
