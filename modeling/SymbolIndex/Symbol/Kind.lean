import SymbolIndex.Vocabulary

/-!
# Kinds of symbols

What a symbol is, how its kind is refined, and the language it is written in. The numbers from
1000 on are set apart for comment tags and for what a single language adds.
-/

namespace SymbolIndex

/-- What a symbol is. -/
inductive SymbolKind where
  | unknown
  | moduleScope
  | namespaceScope
  | namespaceAlias
  | macroName
  | enumType
  | structType
  | classType
  | protocolType
  | typeExtension
  | unionType
  | typeAlias
  | freeFunction
  | variableName
  | fieldName
  | enumConstant
  | instanceMethod
  | classMethod
  | staticMethod
  | instanceProperty
  | classProperty
  | staticProperty
  | constructor
  | destructor
  | conversionFunction
  | parameter
  | usingDeclaration
  | concept
  | commentTag
deriving DecidableEq

def SymbolKind.word : SymbolKind → Word
  | unknown => ⟨0, "unknown", "Unknown"⟩
  | moduleScope => ⟨1, "module", "Module"⟩
  | namespaceScope => ⟨2, "namespace", "Namespace"⟩
  | namespaceAlias => ⟨3, "namespace-alias", "NamespaceAlias"⟩
  | macroName => ⟨4, "macro", "Macro"⟩
  | enumType => ⟨5, "enum", "Enum"⟩
  | structType => ⟨6, "struct", "Struct"⟩
  | classType => ⟨7, "class", "Class"⟩
  | protocolType => ⟨8, "protocol", "Protocol"⟩
  | typeExtension => ⟨9, "extension", "Extension"⟩
  | unionType => ⟨10, "union", "Union"⟩
  | typeAlias => ⟨11, "type-alias", "TypeAlias"⟩
  | freeFunction => ⟨12, "function", "Function"⟩
  | variableName => ⟨13, "variable", "Variable"⟩
  | fieldName => ⟨14, "field", "Field"⟩
  | enumConstant => ⟨15, "enum-constant", "EnumConstant"⟩
  | instanceMethod => ⟨16, "instance-method", "InstanceMethod"⟩
  | classMethod => ⟨17, "class-method", "ClassMethod"⟩
  | staticMethod => ⟨18, "static-method", "StaticMethod"⟩
  | instanceProperty => ⟨19, "instance-property", "InstanceProperty"⟩
  | classProperty => ⟨20, "class-property", "ClassProperty"⟩
  | staticProperty => ⟨21, "static-property", "StaticProperty"⟩
  | constructor => ⟨22, "constructor", "Constructor"⟩
  | destructor => ⟨23, "destructor", "Destructor"⟩
  | conversionFunction => ⟨24, "conversion-function", "ConversionFunction"⟩
  | parameter => ⟨25, "parameter", "Parameter"⟩
  | usingDeclaration => ⟨26, "using", "Using"⟩
  | concept => ⟨27, "concept", "Concept"⟩
  | commentTag => ⟨1000, "comment-tag", "CommentTag"⟩

instance : Vocabulary SymbolKind where
  label := "symbol kind"
  all := [
    .unknown, .moduleScope, .namespaceScope, .namespaceAlias, .macroName, .enumType,
    .structType, .classType, .protocolType, .typeExtension, .unionType, .typeAlias,
    .freeFunction, .variableName, .fieldName, .enumConstant, .instanceMethod, .classMethod,
    .staticMethod, .instanceProperty, .classProperty, .staticProperty, .constructor,
    .destructor, .conversionFunction, .parameter, .usingDeclaration, .concept, .commentTag]
  word := SymbolKind.word

/-- A refinement of a symbol's kind. The plain one refines nothing. -/
inductive SymbolSubKind where
  | plain
  | cxxCopyConstructor
  | cxxMoveConstructor
  | accessorGetter
  | accessorSetter
  | usingTypeName
  | usingValue
  | usingEnum
  | swiftAccessorWillSet
  | swiftAccessorDidSet
  | swiftAccessorAddressor
  | swiftAccessorMutableAddressor
  | swiftExtensionOfStruct
  | swiftExtensionOfClass
  | swiftExtensionOfEnum
  | swiftExtensionOfProtocol
  | swiftPrefixOperator
  | swiftPostfixOperator
  | swiftInfixOperator
  | swiftSubscript
  | swiftAssociatedType
  | swiftGenericTypeParam
  | swiftAccessorRead
  | swiftAccessorModify
  | swiftAccessorInit
deriving DecidableEq

def SymbolSubKind.word : SymbolSubKind → Word
  | plain => ⟨0, "none", "None"⟩
  | cxxCopyConstructor => ⟨1, "cxx-copy-constructor", "CxxCopyConstructor"⟩
  | cxxMoveConstructor => ⟨2, "cxx-move-constructor", "CxxMoveConstructor"⟩
  | accessorGetter => ⟨3, "accessor-getter", "AccessorGetter"⟩
  | accessorSetter => ⟨4, "accessor-setter", "AccessorSetter"⟩
  | usingTypeName => ⟨5, "using-typename", "UsingTypeName"⟩
  | usingValue => ⟨6, "using-value", "UsingValue"⟩
  | usingEnum => ⟨7, "using-enum", "UsingEnum"⟩
  | swiftAccessorWillSet => ⟨1000, "swift-accessor-willset", "SwiftAccessorWillSet"⟩
  | swiftAccessorDidSet => ⟨1001, "swift-accessor-didset", "SwiftAccessorDidSet"⟩
  | swiftAccessorAddressor => ⟨1002, "swift-accessor-addressor", "SwiftAccessorAddressor"⟩
  | swiftAccessorMutableAddressor =>
    ⟨1003, "swift-accessor-mutable-addressor", "SwiftAccessorMutableAddressor"⟩
  | swiftExtensionOfStruct => ⟨1004, "swift-extension-of-struct", "SwiftExtensionOfStruct"⟩
  | swiftExtensionOfClass => ⟨1005, "swift-extension-of-class", "SwiftExtensionOfClass"⟩
  | swiftExtensionOfEnum => ⟨1006, "swift-extension-of-enum", "SwiftExtensionOfEnum"⟩
  | swiftExtensionOfProtocol => ⟨1007, "swift-extension-of-protocol", "SwiftExtensionOfProtocol"⟩
  | swiftPrefixOperator => ⟨1008, "swift-prefix-operator", "SwiftPrefixOperator"⟩
  | swiftPostfixOperator => ⟨1009, "swift-postfix-operator", "SwiftPostfixOperator"⟩
  | swiftInfixOperator => ⟨1010, "swift-infix-operator", "SwiftInfixOperator"⟩
  | swiftSubscript => ⟨1011, "swift-subscript", "SwiftSubscript"⟩
  | swiftAssociatedType => ⟨1012, "swift-associatedtype", "SwiftAssociatedType"⟩
  | swiftGenericTypeParam => ⟨1013, "swift-generic-type-param", "SwiftGenericTypeParam"⟩
  | swiftAccessorRead => ⟨1014, "swift-accessor-read", "SwiftAccessorRead"⟩
  | swiftAccessorModify => ⟨1015, "swift-accessor-modify", "SwiftAccessorModify"⟩
  | swiftAccessorInit => ⟨1016, "swift-accessor-init", "SwiftAccessorInit"⟩

instance : Vocabulary SymbolSubKind where
  label := "symbol sub-kind"
  all := [
    .plain, .cxxCopyConstructor, .cxxMoveConstructor, .accessorGetter, .accessorSetter,
    .usingTypeName, .usingValue, .usingEnum, .swiftAccessorWillSet, .swiftAccessorDidSet,
    .swiftAccessorAddressor, .swiftAccessorMutableAddressor, .swiftExtensionOfStruct,
    .swiftExtensionOfClass, .swiftExtensionOfEnum, .swiftExtensionOfProtocol,
    .swiftPrefixOperator, .swiftPostfixOperator, .swiftInfixOperator, .swiftSubscript,
    .swiftAssociatedType, .swiftGenericTypeParam, .swiftAccessorRead, .swiftAccessorModify,
    .swiftAccessorInit]
  word := SymbolSubKind.word

/-- The language a symbol is written in. -/
inductive SymbolLanguage where
  | c
  | objC
  | cxx
  | swift
deriving DecidableEq

def SymbolLanguage.word : SymbolLanguage → Word
  | c => ⟨0, "c", "C"⟩
  | objC => ⟨1, "objc", "ObjC"⟩
  | cxx => ⟨2, "cxx", "Cxx"⟩
  | swift => ⟨100, "swift", "Swift"⟩

instance : Vocabulary SymbolLanguage where
  label := "symbol language"
  all := [
    .c, .objC, .cxx, .swift]
  word := SymbolLanguage.word

end SymbolIndex
