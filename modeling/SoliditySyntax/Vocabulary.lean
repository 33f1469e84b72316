/-!
# The vocabulary of the Solidity grammar

Every node of a syntax tree has a kind, which the grammar names by a text.
This file lists the named kinds that a reader of trees works with, in a fixed
order, and says which of them declare something at the top level of a source.
Trees also hold nodes of other kinds, such as punctuation, so the kind of a
node is a text, and `NodeKind.ofText?` finds the listed kind that it names.

Besides the listed kinds, a reader of trees needs the kind that is given to
input no rule accepts, and the names under which a node holds certain
children.  All of these are terms, and a term is looked up by its symbol: its
text in capitals, behind `field::` when it names a field.
-/

namespace SoliditySyntax

/-! ## Node kinds -/

/-- The listed kinds of named nodes. -/
inductive NodeKind where
  | sourceFile
  | pragmaDirective
  | solidityVersion
  | importDirective
  | contractDeclaration
  | interfaceDeclaration
  | libraryDeclaration
  | structDeclaration
  | enumDeclaration
  | eventDefinition
  | errorDeclaration
  | functionDefinition
  | modifierDefinition
  | constructorDefinition
  | fallbackReceiveDefinition
  | stateVariableDeclaration
  | userDefinedTypeDefinition
  | usingDirective
  | contractBody
  | structBody
  | structMember
  | enumBody
  | inheritanceSpecifier
  | functionBody
  | parameter
  | modifierInvocation
  | blockStatement
  | expressionStatement
  | variableDeclarationStatement
  | ifStatement
  | forStatement
  | whileStatement
  | returnStatement
  | emitStatement
  | revertStatement
  | assemblyStatement
  | callExpression
  | memberExpression
  | binaryExpression
  | assignmentExpression
  | augmentedAssignmentExpression
  | typeName
  | primitiveType
  | userDefinedType
  | string
  | numberLiteral
  | booleanLiteral
  | hexStringLiteral
  | identifier
  | comment
deriving DecidableEq

namespace NodeKind

/-- The text by which the grammar names a kind. -/
def text : NodeKind → String
  | .sourceFile => "source_file"
  | .pragmaDirective => "pragma_directive"
  | .solidityVersion => "solidity_version"
  | .importDirective => "import_directive"
  | .contractDeclaration => "contract_declaration"
  | .interfaceDeclaration => "interface_declaration"
  | .libraryDeclaration => "library_declaration"
  | .structDeclaration => "struct_declaration"
  | .enumDeclaration => "enum_declaration"
  | .eventDefinition => "event_definition"
  | .errorDeclaration => "error_declaration"
  | .functionDefinition => "function_definition"
  | .modifierDefinition => "modifier_definition"
  | .constructorDefinition => "constructor_definition"
  | .fallbackReceiveDefinition => "fallback_receive_definition"
  | .stateVariableDeclaration => "state_variable_declaration"
  | .userDefinedTypeDefinition => "user_defined_type_definition"
  | .usingDirective => "using_directive"
  | .contractBody => "contract_body"
  | .structBody => "struct_body"
  | .structMember => "struct_member"
  | .enumBody => "enum_body"
  | .inheritanceSpecifier => "inheritance_specifier"
  | .functionBody => "function_body"
  | .parameter => "parameter"
  | .modifierInvocation => "modifier_invocation"
  | .blockStatement => "block_statement"
  | .expressionStatement => "expression_statement"
  | .variableDeclarationStatement => "variable_declaration_statement"
  | .ifStatement => "if_statement"
  | .forStatement => "for_statement"
  | .whileStatement => "while_statement"
  | .returnStatement => "return_statement"
  | .emitStatement => "emit_statement"
  | .revertStatement => "revert_statement"
  | .assemblyStatement => "assembly_statement"
  | .callExpression => "call_expression"
  | .memberExpression => "member_expression"
  | .binaryExpression => "binary_expression"
  | .assignmentExpression => "assignment_expression"
  | .augmentedAssignmentExpression => "augmented_assignment_expression"
  | .typeName => "type_name"
  | .primitiveType => "primitive_type"
  | .userDefinedType => "user_defined_type"
  | .string => "string"
  | .numberLiteral => "number_literal"
  | .booleanLiteral => "boolean_literal"
  | .hexStringLiteral => "hex_string_literal"
  | .identifier => "identifier"
  | .comment => "comment"

/-- Every listed kind, in the order of the grammar's parts from the whole source down to its leaves. -/
def all : List NodeKind :=
  [.sourceFile, .pragmaDirective, .solidityVersion, .importDirective, .contractDeclaration,
   .interfaceDeclaration, .libraryDeclaration, .structDeclaration, .enumDeclaration,
   .eventDefinition, .errorDeclaration, .functionDefinition, .modifierDefinition,
   .constructorDefinition, .fallbackReceiveDefinition, .stateVariableDeclaration,
   .userDefinedTypeDefinition, .usingDirective, .contractBody, .structBody, .structMember,
   .enumBody, .inheritanceSpecifier, .functionBody, .parameter, .modifierInvocation,
   .blockStatement, .expressionStatement, .variableDeclarationStatement, .ifStatement,
   .forStatement, .whileStatement, .returnStatement, .emitStatement, .revertStatement,
   .assemblyStatement, .callExpression, .memberExpression, .binaryExpression,
   .assignmentExpression, .augmentedAssignmentExpression, .typeName, .primitiveType,
   .userDefinedType, .string, .numberLiteral, .booleanLiteral, .hexStringLiteral, .identifier,
   .comment]

/-- The listed kind that a text names. -/
def ofText? (text : String) : Option NodeKind :=
  all.find? (·.text == text)

/-- Whether nodes of a kind are declarations or directives of the top level of a source. -/
def isDeclaration : NodeKind → Bool
  | .pragmaDirective
  | .importDirective
  | .usingDirective
  | .contractDeclaration
  | .interfaceDeclaration
  | .libraryDeclaration
  | .structDeclaration
  | .enumDeclaration
  | .eventDefinition
  | .errorDeclaration
  | .functionDefinition
  | .userDefinedTypeDefinition => true
  | _ => false

/-- The place of a text among those of the listed kinds. -/
def placeOf? (text : String) : Option Nat :=
  all.findIdx? (·.text == text)

/-- Whether a text names a kind of top-level declarations or directives. -/
def namesDeclaration (text : String) : Bool :=
  (ofText? text).any (·.isDeclaration)

theorem mem_all (kind : NodeKind) : kind ∈ all := by
  cases kind <;> decide

/-- Each listed kind is found again by its text. -/
theorem ofText?_text (kind : NodeKind) : ofText? kind.text = some kind := by
  cases kind <;> decide

end NodeKind

/-! ## Field names and terms -/

/-- The names under which a node holds certain children. -/
inductive FieldName where
  | name
  | body
  | type
  | returnType
deriving DecidableEq

namespace FieldName

/-- The text by which the grammar names a field. -/
def text : FieldName → String
  | .name => "name"
  | .body => "body"
  | .type => "type"
  | .returnType => "return_type"

/-- Every field name of the vocabulary. -/
def all : List FieldName :=
  [.name, .body, .type, .returnType]

end FieldName

/-- An entry of the vocabulary. -/
inductive Term where
  | kind (nodeKind : NodeKind)
  | unplaced
  | field (fieldName : FieldName)
deriving DecidableEq

namespace Term

/-- The kind of a node around input that no rule of the grammar accepts. -/
def unplacedText : String :=
  "ERROR"

/-- The text that a term stands for in a syntax tree. -/
def text : Term → String
  | .kind nodeKind => nodeKind.text
  | .unplaced => unplacedText
  | .field fieldName => fieldName.text

/-- The symbol by which a term is looked up. -/
def symbol : Term → String
  | .kind nodeKind => nodeKind.text.toUpper
  | .unplaced => unplacedText
  | .field fieldName => "field::" ++ fieldName.text.toUpper

/-- Every term: the listed kinds, the kind of unplaced input, and the fields. -/
def all : List Term :=
  NodeKind.all.map .kind ++ .unplaced :: FieldName.all.map .field

/-- The term with a given symbol. -/
def ofSymbol? (symbol : String) : Option Term :=
  all.find? (·.symbol == symbol)

end Term

end SoliditySyntax
