/-!
# Kinds of syntax nodes

A node kind is the syntactic category that the grammar gave a node. The set is closed. Kinds are
ordered as they are listed here, and every kind has one grammar name, by which dumps and
configuration files refer to it.
-/

namespace TreeLint

/-- The syntactic category of a node. -/
inductive NodeKind where
  | compilationUnit
  | packageDecl
  | importDirective
  | metadata
  | classDef
  | className
  /-- The dotted identifiers inside a class name. -/
  | classIdentifiers
  | inheritance
  | interfaceDef
  | block
  | functionDef
  | functionName
  | parameters
  | parameter
  | variableDef
  | statement
  | expressionStmt
  | assignmentExpr
  /-- A primary expression: an identifier, a literal, `this`. -/
  | primaryExpr
  /-- The arguments of a call, parentheses included. -/
  | arguments
  | listExpression
  | identifier
  | keyword
  | punctuator
  | stringLiteral
  | decimalLiteral
  | hexLiteral
  | octal
  deriving DecidableEq, Repr, Inhabited

namespace NodeKind

/-- Every kind, in order. -/
def all : List NodeKind :=
  [.compilationUnit, .packageDecl, .importDirective, .metadata, .classDef,
   .className, .classIdentifiers, .inheritance, .interfaceDef, .block,
   .functionDef, .functionName, .parameters, .parameter, .variableDef,
   .statement, .expressionStmt, .assignmentExpr, .primaryExpr, .arguments,
   .listExpression, .identifier, .keyword, .punctuator, .stringLiteral,
   .decimalLiteral, .hexLiteral, .octal]

/-- The grammar name of a kind. -/
def name : NodeKind → String
  | .compilationUnit => "COMPILATION_UNIT"
  | .packageDecl => "PACKAGE_DECL"
  | .importDirective => "IMPORT_DIRECTIVE"
  | .metadata => "METADATA"
  | .classDef => "CLASS_DEF"
  | .className => "CLASS_NAME"
  | .classIdentifiers => "CLASS_IDENTIFIERS"
  | .inheritance => "INHERITANCE"
  | .interfaceDef => "INTERFACE_DEF"
  | .block => "BLOCK"
  | .functionDef => "FUNCTION_DEF"
  | .functionName => "FUNCTION_NAME"
  | .parameters => "PARAMETERS"
  | .parameter => "PARAMETER"
  | .variableDef => "VARIABLE_DEF"
  | .statement => "STATEMENT"
  | .expressionStmt => "EXPRESSION_STMT"
  | .assignmentExpr => "ASSIGNMENT_EXPR"
  | .primaryExpr => "PRIMARY_EXPR"
  | .arguments => "ARGUMENTS"
  | .listExpression => "LIST_EXPRESSION"
  | .identifier => "IDENTIFIER"
  | .keyword => "KEYWORD"
  | .punctuator => "PUNCTUATOR"
  | .stringLiteral => "STRING_LITERAL"
  | .decimalLiteral => "DECIMAL_LITERAL"
  | .hexLiteral => "HEX_LITERAL"
  | .octal => "OCTAL"

/-- The name of a kind in descriptions of nodes: the words of the grammar name, run together. -/
def title : NodeKind → String
  | .compilationUnit => "CompilationUnit"
  | .packageDecl => "PackageDecl"
  | .importDirective => "ImportDirective"
  | .metadata => "Metadata"
  | .classDef => "ClassDef"
  | .className => "ClassName"
  | .classIdentifiers => "ClassIdentifiers"
  | .inheritance => "Inheritance"
  | .interfaceDef => "InterfaceDef"
  | .block => "Block"
  | .functionDef => "FunctionDef"
  | .functionName => "FunctionName"
  | .parameters => "Parameters"
  | .parameter => "Parameter"
  | .variableDef => "VariableDef"
  | .statement => "Statement"
  | .expressionStmt => "ExpressionStmt"
  | .assignmentExpr => "AssignmentExpr"
  | .primaryExpr => "PrimaryExpr"
  | .arguments => "Arguments"
  | .listExpression => "ListExpression"
  | .identifier => "Identifier"
  | .keyword => "Keyword"
  | .punctuator => "Punctuator"
  | .stringLiteral => "StringLiteral"
  | .decimalLiteral => "DecimalLiteral"
  | .hexLiteral => "HexLiteral"
  | .octal => "Octal"

/-- The place of a kind in `all`. -/
def index (kind : NodeKind) : Nat :=
  all.idxOf kind

/-- The kind with a grammar name. -/
def ofName? (text : String) : Option NodeKind :=
  all.find? fun kind => kind.name == text

/-- What is said of a name that no kind has. -/
def unknownMessage (text : String) : String :=
  s!"Unknown node kind: {text}"

/-- The kinds of a list in order, each once. -/
def sorted (kinds : List NodeKind) : List NodeKind :=
  all.filter fun kind => kinds.contains kind

theorem mem_all (kind : NodeKind) : kind ∈ all := by
  cases kind <;> decide

/-- A grammar name leads back to its kind. -/
@[simp]
theorem ofName?_name (kind : NodeKind) : ofName? kind.name = some kind := by
  cases kind <;> rfl

/-- A kind is found only under its own grammar name. -/
theorem name_of_ofName? {text : String} {kind : NodeKind} (h : ofName? text = some kind) :
    kind.name = text := by
  simpa using List.find?_some h

/-- Two kinds with one grammar name are one kind. -/
theorem name_injective {a b : NodeKind} (h : a.name = b.name) : a = b := by
  have := ofName?_name a
  rw [h, ofName?_name] at this
  exact (Option.some.inj this).symm

end NodeKind

end TreeLint
