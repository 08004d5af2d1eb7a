import ChecklistReview.TypeScript.Token

/-!
# Rules of TypeScript

The rules of TypeScript and of its dialect with markup, in the order that decides between
parses of equal weight: statements, expressions and functions first, then types.

## Main definitions

* `Dialect` tells the two grammars apart.
* `statements`, `expressions`, `functions`, `primitives`, `members` and `types` are the rules.
-/

namespace ChecklistReview.TypeScript

open Grammar Form

/-- Plain TypeScript has type assertions in angle brackets; the other dialect has markup in
their place. -/
inductive Dialect where
  | plain
  | markup
  deriving DecidableEq

/-! ### Shorthands -/

/-- A rule with its right side. -/
abbrev Entry := String × Definition

/-- A literal. -/
def lit (text : String) : Form := .literal text

/-- A rule or token by name. -/
def ref (name : String) : Form := .rule name

/-- A field that holds a rule. -/
def holds (field name : String) : Form := .field field (.rule name)

/-- A field that may hold a rule. -/
def mayHold (field name : String) : Form := .field field (opt (.rule name))

/-- A rule. -/
def def_ (name : String) (body : Form) : Entry := (name, .form body)

/-- A token. -/
def tok (name : String) (token : Token) : Entry := (name, .token token)

/-- One of the literals. -/
def oneOf (texts : List String) : Form := any (texts.map lit)

/-- One of the rules. -/
def oneRule (names : List String) : Form := any (names.map ref)

/-- The opening brace. -/
def openBrace : Form := lit "\x7b"

/-- The closing brace. -/
def closeBrace : Form := lit "\x7d"

/-! ### Statements -/

/-- Modules and what they export and import. -/
def modules : List Entry :=
  [ def_ "program" (all [opt (ref "hash_bang_line"), many (ref "statement")]),
    tok "hash_bang_line" hashBang,
    def_ "export_statement" (any [
      all [lit "export",
        any [all [lit "*", ref "_from_clause"], all [ref "namespace_export", ref "_from_clause"],
          all [ref "export_clause", ref "_from_clause"], ref "export_clause"],
      ref "_semicolon"], all [many (holds "decorator" "decorator"), lit "export",
        any [holds "declaration" "declaration",
          all [lit "default",
            any [holds "declaration" "declaration",
              all [holds "value" "expression", ref "_semicolon"]]]]],
      all [lit "export", lit "type", ref "export_clause", opt (ref "_from_clause"),
      ref "_semicolon"], all [lit "export", lit "import", ref "import_alias"],
      all [lit "export", lit "=", ref "expression", ref "_semicolon"],
      all [lit "export", lit "as", lit "namespace", ref "identifier", ref "_semicolon"]]),
    def_ "namespace_export" (all [lit "*", lit "as", ref "_module_export_name"]),
    def_ "export_clause" (all [openBrace, commas (ref "export_specifier"), opt (lit ","),
      closeBrace]),
    def_ "export_specifier" (all [
      opt (oneOf ["type", "typeof"]),
      all [holds "name" "_module_export_name",
        opt (all [lit "as", holds "alias" "_module_export_name"])]]),
    def_ "_module_export_name" (oneRule ["identifier", "string"]),
    def_ "declaration" (any [ref "function_declaration", ref "generator_function_declaration",
      ref "class_declaration", ref "lexical_declaration", ref "variable_declaration",
      ref "function_signature", ref "abstract_class_declaration", ref "module",
      at_ "declare" (ref "internal_module"), ref "type_alias_declaration", ref "enum_declaration",
      ref "interface_declaration", ref "import_alias", ref "ambient_declaration"]),
    def_ "import" (lit "import"),
    def_ "import_statement" (all [lit "import", opt (oneOf ["type", "typeof"]),
      any [all [ref "import_clause", ref "_from_clause"], ref "import_require_clause",
        holds "source" "string"],
      opt (ref "import_attribute"), ref "_semicolon"]),
    def_ "import_clause" (any [ref "namespace_import", ref "named_imports",
      all [ref "_import_identifier",
        opt (all [lit ",", oneRule ["namespace_import", "named_imports"]])]]),
    def_ "_from_clause" (all [lit "from", holds "source" "string"]),
    def_ "namespace_import" (all [lit "*", lit "as", ref "identifier"]),
    def_ "named_imports" (all [openBrace, commas (ref "import_specifier"), opt (lit ","),
      closeBrace]),
    def_ "import_specifier" (all [opt (oneOf ["type", "typeof"]),
      any [holds "name" "_import_identifier",
        all [.field "name" (any [ref "_module_export_name", as (lit "type") "identifier"]),
          lit "as", holds "alias" "_import_identifier"]]]),
    def_ "import_attribute" (all [lit "with", ref "object"]) ]

/-- Statements and their parts. -/
def statements : List Entry :=
  [ def_ "statement" (oneRule ["export_statement", "import_statement", "debugger_statement",
      "expression_statement", "declaration", "statement_block", "if_statement", "switch_statement",
      "for_statement", "for_in_statement", "while_statement", "do_statement", "try_statement",
      "with_statement", "break_statement", "continue_statement", "return_statement",
      "throw_statement", "empty_statement", "labeled_statement"]),
    def_ "expression_statement" (all [ref "_expressions", ref "_semicolon"]),
    def_ "variable_declaration" (all [lit "var", commas1 (ref "variable_declarator"),
      ref "_semicolon"]),
    def_ "lexical_declaration" (all [.field "kind" (oneOf ["let", "const"]),
      commas1 (ref "variable_declarator"), ref "_semicolon"]),
    def_ "variable_declarator" (any [
      all [.field "name" (oneRule ["identifier", "_destructuring_pattern"]),
        mayHold "type" "type_annotation", opt (ref "_initializer")],
      at_ "declare" (all [holds "name" "identifier", lit "!", holds "type" "type_annotation"])]),
    def_ "statement_block" (right (all [openBrace, many (ref "statement"), closeBrace,
      opt (ref "_automatic_semicolon")])),
    def_ "else_clause" (all [lit "else", ref "statement"]),
    def_ "if_statement" (right (all [lit "if", holds "condition" "parenthesized_expression",
      holds "consequence" "statement", opt (holds "alternative" "else_clause")])),
    def_ "switch_statement" (all [lit "switch", holds "value" "parenthesized_expression",
      holds "body" "switch_body"]),
    def_ "for_statement" (all [lit "for", lit "(",
      any [.field "initializer" (oneRule ["lexical_declaration", "variable_declaration"]),
        all [holds "initializer" "_expressions", lit ";"],
        holds "initializer" "empty_statement"],
      .field "condition" (any [all [ref "_expressions", lit ";"], ref "empty_statement"]),
      mayHold "increment" "_expressions", lit ")", holds "body" "statement"]),
    def_ "for_in_statement" (all [lit "for", opt (lit "await"), ref "_for_header",
      holds "body" "statement"]),
    def_ "_for_header" (all [lit "(",
      any [.field "left" (oneRule ["_lhs_expression", "parenthesized_expression"]),
        all [.field "kind" (lit "var"),
          .field "left" (oneRule ["identifier", "_destructuring_pattern"]),
            opt (ref "_initializer")],
        all [.field "kind" (oneOf ["let", "const"]),
          .field "left" (oneRule ["identifier", "_destructuring_pattern"]),
          opt (ref "_automatic_semicolon")]],
      .field "operator" (oneOf ["in", "of"]), holds "right" "_expressions", lit ")"]),
    def_ "while_statement" (all [lit "while", holds "condition" "parenthesized_expression",
      holds "body" "statement"]),
    def_ "do_statement" (right (all [lit "do", holds "body" "statement", lit "while",
      holds "condition" "parenthesized_expression", opt (ref "_semicolon")])),
    def_ "try_statement" (all [lit "try", holds "body" "statement_block",
      opt (holds "handler" "catch_clause"), opt (holds "finalizer" "finally_clause")]),
    def_ "with_statement" (all [lit "with", holds "object" "parenthesized_expression",
      holds "body" "statement"]),
    def_ "break_statement" (all [lit "break",
      .field "label" (opt (as (ref "identifier") "statement_identifier")), ref "_semicolon"]),
    def_ "continue_statement" (all [lit "continue",
      .field "label" (opt (as (ref "identifier") "statement_identifier")), ref "_semicolon"]),
    def_ "debugger_statement" (all [lit "debugger", ref "_semicolon"]),
    def_ "return_statement" (all [lit "return", opt (ref "_expressions"), ref "_semicolon"]),
    def_ "throw_statement" (all [lit "throw", ref "_expressions", ref "_semicolon"]),
    def_ "empty_statement" (lit ";"),
    def_ "labeled_statement" (.weighted (-1) (all [
      .field "label" (as (oneRule ["identifier", "_reserved_identifier"]) "statement_identifier"),
      lit ":", holds "body" "statement"])),
    def_ "switch_body" (all [openBrace, many (oneRule ["switch_case", "switch_default"]),
      closeBrace]),
    def_ "switch_case" (all [lit "case", holds "value" "_expressions", lit ":",
      .field "body" (many (ref "statement"))]),
    def_ "switch_default" (all [lit "default", lit ":", .field "body" (many (ref "statement"))]),
    def_ "catch_clause" (all [lit "catch",
      opt (all [lit "(", .field "parameter" (oneRule ["identifier", "_destructuring_pattern"]),
        opt (holds "type" "type_annotation"), lit ")"]),
      holds "body" "statement_block"]),
    def_ "finally_clause" (all [lit "finally", holds "body" "statement_block"]),
    def_ "parenthesized_expression" (all [lit "(",
      any [all [ref "expression", mayHold "type" "type_annotation"], ref "sequence_expression"],
      lit ")"]) ]

/-! ### Expressions -/

/-- What stands for an expression in a dialect. -/
def expressionKinds : Dialect → List String
  | .plain =>
    ["as_expression", "satisfies_expression", "instantiation_expression", "internal_module",
      "type_assertion", "primary_expression"] ++ shared
  | .markup =>
    ["as_expression", "satisfies_expression", "instantiation_expression", "internal_module",
      "primary_expression", "_jsx_element"] ++ shared
where
  /-- Expressions of both dialects. -/
  shared : List String :=
    ["assignment_expression", "augmented_assignment_expression", "await_expression",
      "unary_expression", "binary_expression", "ternary_expression", "update_expression",
      "new_expression", "yield_expression"]

/-- A name or a word that may be used as one. -/
def nameOrReserved : Form := oneRule ["identifier", "_reserved_identifier"]

/-- Expressions and patterns. -/
def expressions (dialect : Dialect) : List Entry :=
  [ def_ "_expressions" (oneRule ["expression", "sequence_expression"]),
    def_ "expression" (oneRule (expressionKinds dialect)),
    def_ "primary_expression" (any [ref "subscript_expression", ref "member_expression",
      ref "parenthesized_expression", ref "_identifier",
        as (ref "_reserved_identifier") "identifier",
      ref "this", ref "super", ref "number", ref "string", ref "template_string", ref "regex",
      ref "true", ref "false", ref "null", ref "object", ref "array", ref "function_expression",
      ref "arrow_function", ref "generator_function", ref "class", ref "meta_property",
      ref "call_expression", ref "non_null_expression"]),
    def_ "yield_expression" (right (all [lit "yield",
      any [all [lit "*", ref "expression"], opt (ref "expression")]])),
    def_ "object" (at_ "object" (all [openBrace,
      commas (opt (any [ref "pair", ref "spread_element", ref "method_definition",
        as nameOrReserved "shorthand_property_identifier"])),
      closeBrace])),
    def_ "object_pattern" (at_ "object" (all [openBrace,
      commas (opt (any [ref "pair_pattern", ref "rest_pattern", ref "object_assignment_pattern",
        as nameOrReserved "shorthand_property_identifier_pattern"])),
      closeBrace])),
    def_ "assignment_pattern" (all [holds "left" "pattern", lit "=", holds "right" "expression"]),
    def_ "object_assignment_pattern" (all [
      .field "left" (any [
        as (oneRule ["_reserved_identifier", "identifier"]) "shorthand_property_identifier_pattern",
        ref "_destructuring_pattern"]),
      lit "=", holds "right" "expression"]),
    def_ "array" (all [lit "[", commas (opt (oneRule ["expression", "spread_element"])), lit "]"]),
    def_ "array_pattern" (all [lit "[", commas (opt (oneRule ["pattern", "assignment_pattern"])),
      lit "]"]) ]

/-- A string between quotes with the given inside. -/
def quoted (quote : String) (inside : Form) : Form := all [lit quote, many inside, lit quote]

/-- Elements of markup. -/
def markup : List Entry :=
  [ def_ "_jsx_element" (oneRule ["jsx_element", "jsx_self_closing_element"]),
    def_ "jsx_element" (all [holds "open_tag" "jsx_opening_element", many (ref "_jsx_child"),
      holds "close_tag" "jsx_closing_element"]),
    tok "html_character_reference" characterReference,
    def_ "jsx_expression" (all [openBrace,
      opt (oneRule ["expression", "sequence_expression", "spread_element"]), closeBrace]),
    def_ "_jsx_child" (oneRule ["jsx_text", "html_character_reference", "_jsx_element",
      "jsx_expression"]),
    def_ "jsx_opening_element" (.weighted (-1) (all [ref "_jsx_start_opening_element", lit ">"])),
    tok "jsx_identifier" hyphenated,
    def_ "_jsx_identifier" (any [as (ref "jsx_identifier") "identifier", ref "identifier"]),
    def_ "nested_identifier" (at_ "member" (all [
      .field "object" (any [ref "identifier", as (ref "nested_identifier") "member_expression"]),
      lit ".", .field "property" (as (ref "identifier") "property_identifier")])),
    def_ "jsx_namespace_name" (all [ref "_jsx_identifier", lit ":", ref "_jsx_identifier"]),
    def_ "_jsx_element_name" (any [ref "_jsx_identifier",
      as (ref "nested_identifier") "member_expression",
      ref "jsx_namespace_name"]),
    def_ "jsx_closing_element" (all [lit "</", opt (holds "name" "_jsx_element_name"), lit ">"]),
    def_ "jsx_self_closing_element" (.weighted (-1) (all [ref "_jsx_start_opening_element",
      lit "/>"])),
    def_ "_jsx_attribute" (oneRule ["jsx_attribute", "jsx_expression"]),
    def_ "_jsx_attribute_name" (any [as (ref "_jsx_identifier") "property_identifier",
      ref "jsx_namespace_name"]),
    def_ "jsx_attribute" (all [ref "_jsx_attribute_name",
      opt (all [lit "=", ref "_jsx_attribute_value"])]),
    def_ "_jsx_string" (any [
      quoted "\"" (any [as (ref "unescaped_double_jsx_string_fragment") "string_fragment",
        ref "html_character_reference"]),
      quoted "'" (any [as (ref "unescaped_single_jsx_string_fragment") "string_fragment",
        ref "html_character_reference"])]),
    tok "unescaped_double_jsx_string_fragment" (attributeInside '"'),
    tok "unescaped_single_jsx_string_fragment" (attributeInside '\''),
    def_ "_jsx_attribute_value" (any [as (ref "_jsx_string") "string", ref "jsx_expression",
      ref "_jsx_element"]) ]

/-! ### Functions and operators -/

/-- Classes and functions. -/
def functions : List Entry :=
  [ def_ "class" (at_ "literal" (all [many (holds "decorator" "decorator"), lit "class",
      mayHold "name" "_type_identifier", mayHold "type_parameters" "type_parameters",
      opt (ref "class_heritage"), holds "body" "class_body"])),
    def_ "class_declaration" (leftAt "declare" (all [many (holds "decorator" "decorator"),
      lit "class", holds "name" "_type_identifier", mayHold "type_parameters" "type_parameters",
      opt (ref "class_heritage"), holds "body" "class_body", opt (ref "_automatic_semicolon")])),
    def_ "class_heritage" (any [all [ref "extends_clause", opt (ref "implements_clause")],
      ref "implements_clause"]),
    def_ "function_expression" (at_ "literal" (all [opt (lit "async"), lit "function",
      mayHold "name" "identifier", ref "_call_signature", holds "body" "statement_block"])),
    def_ "function_declaration" (rightAt "declare" (all [opt (lit "async"), lit "function",
      holds "name" "identifier", ref "_call_signature", holds "body" "statement_block",
      opt (ref "_automatic_semicolon")])),
    def_ "generator_function" (at_ "literal" (all [opt (lit "async"), lit "function", lit "*",
      mayHold "name" "identifier", ref "_call_signature", holds "body" "statement_block"])),
    def_ "generator_function_declaration" (rightAt "declare" (all [opt (lit "async"),
      lit "function",
      lit "*", holds "name" "identifier", ref "_call_signature", holds "body" "statement_block",
      opt (ref "_automatic_semicolon")])),
    def_ "arrow_function" (all [opt (lit "async"),
      any [.field "parameter" (any [as (ref "_reserved_identifier") "identifier",
        ref "identifier"]), ref "_call_signature"],
      lit "=>", .field "body" (oneRule ["expression", "statement_block"])]),
    def_ "_call_signature" (all [mayHold "type_parameters" "type_parameters",
      holds "parameters" "formal_parameters",
      .field "return_type" (opt (oneRule ["type_annotation", "asserts_annotation",
        "type_predicate_annotation"]))]),
    def_ "_formal_parameter" (oneRule ["required_parameter", "optional_parameter"]),
    def_ "optional_chain" (lit "?.") ]

/-- A binary operator with its rank. -/
def binary (operator rank : String) : Form :=
  let leftSide := if operator = "in" then oneRule ["expression", "private_property_identifier"]
    else ref "expression"
  let body := all [.field "left" leftSide, .field "operator" (lit operator),
    holds "right" "expression"]
  if operator = "**" then rightAt rank body else leftAt rank body

/-- The binary operators. -/
def binaryOperators : List (String × String) :=
  [("&&", "logical_and"), ("||", "logical_or"), (">>", "binary_shift"), (">>>", "binary_shift"),
    ("<<", "binary_shift"), ("&", "bitwise_and"), ("^", "bitwise_xor"), ("|", "bitwise_or"),
    ("+", "binary_plus"), ("-", "binary_plus"), ("*", "binary_times"), ("/", "binary_times"),
    ("%", "binary_times"), ("**", "binary_exp"), ("<", "binary_relation"),
    ("<=", "binary_relation"), ("==", "binary_equality"), ("===", "binary_equality"),
    ("!=", "binary_equality"), ("!==", "binary_equality"), (">=", "binary_relation"),
    (">", "binary_relation"),
    ("??", "ternary"), ("instanceof", "binary_relation"), ("in", "binary_relation")]

/-- Calls, accesses, assignments and operators. -/
def operations : List Entry :=
  [ def_ "call_expression" (any [
      at_ "call" (all [.field "function" (oneRule ["expression", "import"]),
        mayHold "type_arguments" "type_arguments", holds "arguments" "arguments"]),
      at_ "template_call" (all [.field "function" (oneRule ["primary_expression",
        "new_expression"]), holds "arguments" "template_string"]),
      at_ "member" (all [holds "function" "primary_expression", lit "?.",
        mayHold "type_arguments" "type_arguments", holds "arguments" "arguments"])]),
    def_ "new_expression" (rightAt "new" (all [lit "new", holds "constructor" "primary_expression",
      mayHold "type_arguments" "type_arguments", mayHold "arguments" "arguments"])),
    def_ "await_expression" (at_ "unary_void" (all [lit "await", ref "expression"])),
    def_ "member_expression" (at_ "member" (all [
      .field "object" (oneRule ["expression", "primary_expression", "import"]),
      any [lit ".", holds "optional_chain" "optional_chain"],
      .field "property" (any [ref "private_property_identifier",
        as (ref "identifier") "property_identifier"])])),
    def_ "subscript_expression" (rightAt "member" (all [
      .field "object" (oneRule ["expression", "primary_expression"]),
      opt (holds "optional_chain" "optional_chain"),
      lit "[", holds "index" "_expressions", lit "]"])),
    def_ "_lhs_expression" (any [ref "member_expression", ref "subscript_expression",
      ref "_identifier", as (ref "_reserved_identifier") "identifier", ref "_destructuring_pattern",
      ref "non_null_expression"]),
    def_ "assignment_expression" (rightAt "assign" (all [opt (lit "using"),
      .field "left" (oneRule ["parenthesized_expression", "_lhs_expression"]),
      lit "=", holds "right" "expression"])),
    def_ "_augmented_assignment_lhs" (any [ref "member_expression", ref "subscript_expression",
      as (ref "_reserved_identifier") "identifier", ref "identifier",
        ref "parenthesized_expression",
      ref "non_null_expression"]),
    def_ "augmented_assignment_expression" (rightAt "assign" (all [
      holds "left" "_augmented_assignment_lhs",
      .field "operator" (oneOf ["+=", "-=", "*=", "/=", "%=", "^=", "&=", "|=", ">>=", ">>>=",
        "<<=", "**=", "&&=", "||=", "??="]),
      holds "right" "expression"])),
    def_ "_initializer" (all [lit "=", holds "value" "expression"]),
    def_ "_destructuring_pattern" (oneRule ["object_pattern", "array_pattern"]),
    def_ "spread_element" (all [lit "...", ref "expression"]),
    def_ "ternary_expression" (rightAt "ternary" (all [holds "condition" "expression",
      .shown (ref "_ternary_qmark") "?" false, holds "consequence" "expression", lit ":",
      holds "alternative" "expression"])),
    def_ "binary_expression"
      (any (binaryOperators.map fun (operator, rank) => binary operator rank)),
    def_ "unary_expression" (leftAt "unary_void" (all [
      .field "operator" (oneOf ["!", "~", "-", "+", "typeof", "void", "delete"]),
      holds "argument" "expression"])),
    def_ "update_expression" (left (any [
      all [holds "argument" "expression", .field "operator" (oneOf ["++", "--"])],
      all [.field "operator" (oneOf ["++", "--"]), holds "argument" "expression"]])),
    def_ "sequence_expression" (right (commas1 (ref "expression"))) ]

/-- Strings, templates, regular expressions, numbers and names. -/
def primitives : List Entry :=
  [ def_ "string" (any [
      quoted "\"" (any [as (ref "unescaped_double_string_fragment") "string_fragment",
        ref "escape_sequence"]),
      quoted "'" (any [as (ref "unescaped_single_string_fragment") "string_fragment",
        ref "escape_sequence"])]),
    tok "unescaped_double_string_fragment" (stringInside '"'),
    tok "unescaped_single_string_fragment" (stringInside '\''),
    tok "escape_sequence" escape,
    tok "comment" comment,
    def_ "template_string" (quoted "`" (any [as (ref "_template_chars") "string_fragment",
      ref "escape_sequence", ref "template_substitution"])),
    def_ "template_substitution" (all [lit "$\x7b", ref "_expressions", closeBrace]),
    def_ "regex" (all [lit "/", holds "pattern" "regex_pattern", ref "regex_close",
      opt (holds "flags" "regex_flags")]),
    tok "regex_close" regexClose,
    tok "regex_pattern" regexInside,
    tok "regex_flags" regexFlags,
    tok "number" number,
    def_ "_identifier" (oneRule ["undefined", "identifier"]),
    tok "identifier" identifier,
    tok "private_property_identifier" privateName,
    def_ "meta_property" (any [all [lit "new", lit ".", lit "target"],
      all [lit "import", lit ".", lit "meta"]]),
    def_ "this" (lit "this"),
    def_ "super" (lit "super"),
    def_ "true" (lit "true"),
    def_ "false" (lit "false"),
    def_ "null" (lit "null"),
    def_ "undefined" (lit "undefined") ]

/-- Words that are names wherever no keyword is expected. -/
def reservedWords : List String :=
  ["declare", "namespace", "type", "public", "private", "protected", "override", "readonly",
    "module", "any", "number", "boolean", "string", "symbol", "export", "object", "new", "readonly",
    "get", "set", "async", "static", "export", "let"]

/-- Arguments, decorators, parameters and the members of classes and objects. -/
def members : List Entry :=
  [ def_ "arguments" (all [lit "(", commas (opt (oneRule ["expression", "spread_element"])),
    lit ")"]),
    def_ "decorator" (all [lit "@", any [ref "identifier",
      as (ref "decorator_member_expression") "member_expression",
      as (ref "decorator_call_expression") "call_expression",
      as (ref "decorator_parenthesized_expression") "parenthesized_expression"]]),
    def_ "decorator_member_expression" (at_ "member" (all [
      .field "object" (any [ref "identifier",
        as (ref "decorator_member_expression") "member_expression"]),
      lit ".", .field "property" (as (ref "identifier") "property_identifier")])),
    def_ "decorator_call_expression" (at_ "call" (all [
      .field "function" (any [ref "identifier",
        as (ref "decorator_member_expression") "member_expression"]),
      mayHold "type_arguments" "type_arguments", holds "arguments" "arguments"])),
    def_ "class_body" (all [openBrace,
      many (any [
        all [many (holds "decorator" "decorator"), ref "method_definition", opt (ref "_semicolon")],
        all [ref "method_signature",
          any [ref "_function_signature_automatic_semicolon", lit ","]],
        ref "class_static_block",
        all [oneRule ["abstract_method_signature", "index_signature", "method_signature",
            "public_field_definition"],
          any [ref "_semicolon", lit ","]],
        lit ";"]),
      closeBrace]),
    def_ "formal_parameters" (all [lit "(",
      opt (all [commas1 (ref "_formal_parameter"), opt (lit ",")]), lit ")"]),
    def_ "class_static_block" (all [lit "static", holds "body" "statement_block"]),
    def_ "pattern" (.weighted (-1) (oneRule ["_lhs_expression", "rest_pattern"])),
    def_ "rest_pattern" (right (all [lit "...", ref "_lhs_expression"])),
    def_ "method_definition" (left (all [opt (ref "accessibility_modifier"), opt (lit "static"),
      opt (ref "override_modifier"), opt (lit "readonly"), opt (lit "async"),
      opt (oneOf ["get", "set", "*"]), holds "name" "_property_name", opt (lit "?"),
      ref "_call_signature", holds "body" "statement_block"])),
    def_ "pair" (all [holds "key" "_property_name", lit ":", holds "value" "expression"]),
    def_ "pair_pattern" (all [holds "key" "_property_name", lit ":",
      .field "value" (oneRule ["pattern", "assignment_pattern"])]),
    def_ "_property_name" (any [as nameOrReserved "property_identifier",
      ref "private_property_identifier", ref "string", ref "number", ref "computed_property_name"]),
    def_ "computed_property_name" (all [lit "[", ref "expression", lit "]"]),
    def_ "_reserved_identifier" (oneOf reservedWords),
    def_ "_semicolon" (any [ref "_automatic_semicolon", lit ";"]) ]

/-! ### Types -/

/-- Fields, signatures and declarations that speak of types. -/
def typedMembers : List Entry :=
  [ def_ "public_field_definition" (all [many (holds "decorator" "decorator"),
      opt (any [all [lit "declare", opt (ref "accessibility_modifier")],
        all [ref "accessibility_modifier", opt (lit "declare")]]),
      any [all [opt (lit "static"), opt (ref "override_modifier"), opt (lit "readonly")],
        all [opt (lit "abstract"), opt (lit "readonly")],
        all [opt (lit "readonly"), opt (lit "abstract")],
        opt (lit "accessor")],
      holds "name" "_property_name", opt (oneOf ["?", "!"]), mayHold "type" "type_annotation",
      opt (ref "_initializer")]),
    def_ "_jsx_start_opening_element" (all [lit "<",
      opt (all [
        any [.field "name" (oneRule ["_jsx_identifier", "jsx_namespace_name"]),
          all [.field "name" (any [ref "identifier",
            as (ref "nested_identifier") "member_expression"]),
            mayHold "type_arguments" "type_arguments"]],
        many (holds "attribute" "_jsx_attribute")])]),
    def_ "_import_identifier" (any [ref "identifier", as (lit "type") "identifier"]),
    def_ "non_null_expression" (leftAt "unary" (all [ref "expression", lit "!"])),
    def_ "method_signature" (all [opt (ref "accessibility_modifier"), opt (lit "static"),
      opt (ref "override_modifier"), opt (lit "readonly"), opt (lit "async"),
      opt (oneOf ["get", "set", "*"]), holds "name" "_property_name", opt (lit "?"),
      ref "_call_signature"]),
    def_ "abstract_method_signature" (all [opt (ref "accessibility_modifier"), lit "abstract",
      opt (ref "override_modifier"), opt (oneOf ["get", "set", "*"]), holds "name" "_property_name",
      opt (lit "?"), ref "_call_signature"]),
    def_ "function_signature" (all [opt (lit "async"), lit "function", holds "name" "identifier",
      ref "_call_signature", oneRule ["_semicolon", "_function_signature_automatic_semicolon"]]),
    def_ "decorator_parenthesized_expression" (all [lit "(", any [ref "identifier",
      as (ref "decorator_member_expression") "member_expression",
      as (ref "decorator_call_expression") "call_expression"], lit ")"]),
    def_ "type_assertion" (leftAt "unary" (all [ref "type_arguments", ref "expression"])),
    def_ "as_expression" (leftAt "binary" (all [ref "expression", lit "as",
      any [lit "const", ref "type"]])),
    def_ "satisfies_expression" (leftAt "binary" (all [ref "expression", lit "satisfies",
      ref "type"])),
    def_ "instantiation_expression" (at_ "instantiation" (all [ref "expression",
      holds "type_arguments" "type_arguments"])),
    def_ "import_require_clause" (all [ref "identifier", lit "=", lit "require", lit "(",
      holds "source" "string", lit ")"]),
    def_ "extends_clause" (all [lit "extends", commas1 (ref "_extends_clause_single")]),
    def_ "_extends_clause_single" (at_ "extends" (all [holds "value" "expression",
      mayHold "type_arguments" "type_arguments"])),
    def_ "implements_clause" (all [lit "implements", commas1 (ref "type")]),
    def_ "ambient_declaration" (all [lit "declare", any [ref "declaration",
      all [lit "global", ref "statement_block"],
      all [lit "module", lit ".", as (ref "identifier") "property_identifier", lit ":", ref "type",
        ref "_semicolon"]]]),
    def_ "abstract_class_declaration" (at_ "declare" (all [many (holds "decorator" "decorator"),
      lit "abstract", lit "class", holds "name" "_type_identifier",
      mayHold "type_parameters" "type_parameters", opt (ref "class_heritage"),
      holds "body" "class_body"])),
    def_ "module" (all [lit "module", ref "_module"]),
    def_ "internal_module" (all [lit "namespace", ref "_module"]),
    def_ "_module" (right (all [.field "name" (oneRule ["string", "identifier",
      "nested_identifier"]), mayHold "body" "statement_block"])),
    def_ "import_alias" (all [lit "import", ref "identifier", lit "=",
      oneRule ["identifier", "nested_identifier"], ref "_semicolon"]),
    def_ "nested_type_identifier" (at_ "member" (all [
      .field "module" (oneRule ["identifier", "nested_identifier"]), lit ".",
      holds "name" "_type_identifier"])),
    def_ "interface_declaration" (all [lit "interface", holds "name" "_type_identifier",
      mayHold "type_parameters" "type_parameters", opt (ref "extends_type_clause"),
      .field "body" (as (ref "object_type") "interface_body")]),
    def_ "extends_type_clause" (all [lit "extends",
      commas1 (.field "type" (oneRule ["_type_identifier", "nested_type_identifier",
        "generic_type"]))]),
    def_ "enum_declaration" (all [opt (lit "const"), lit "enum", holds "name" "identifier",
      holds "body" "enum_body"]),
    def_ "enum_body" (all [openBrace,
      opt (all [commas1 (any [holds "name" "_property_name", ref "enum_assignment"]),
      opt (lit ",")]), closeBrace]),
    def_ "enum_assignment" (all [holds "name" "_property_name", ref "_initializer"]),
    def_ "type_alias_declaration" (all [lit "type", holds "name" "_type_identifier",
      mayHold "type_parameters" "type_parameters", lit "=", holds "value" "type",
        ref "_semicolon"]),
    def_ "accessibility_modifier" (oneOf ["public", "private", "protected"]),
    def_ "override_modifier" (lit "override"),
    def_ "required_parameter" (all [ref "_parameter_name", mayHold "type" "type_annotation",
      opt (ref "_initializer")]),
    def_ "optional_parameter" (all [ref "_parameter_name", lit "?",
      mayHold "type" "type_annotation",
      opt (ref "_initializer")]),
    def_ "_parameter_name" (all [many (holds "decorator" "decorator"),
      opt (ref "accessibility_modifier"),
      opt (ref "override_modifier"), opt (lit "readonly"),
      .field "pattern" (oneRule ["pattern", "this"])]) ]

/-- A member access in a type, shown like one in an expression. -/
def shownMember (name : String) : Form := as (ref name) "member_expression"

/-- A call in a type, shown like one in an expression. -/
def shownCall (name : String) : Form := as (ref name) "call_expression"

/-- A subscript in a type, shown like one in an expression. -/
def shownSubscript (name : String) : Form := as (ref name) "subscript_expression"

/-- What may follow a dot. -/
def memberName : Form :=
  any [ref "private_property_identifier", as (ref "identifier") "property_identifier"]

/-- Annotations and the types they hold. -/
def types : List Entry :=
  [ def_ "omitting_type_annotation" (all [lit "-?:", ref "type"]),
    def_ "adding_type_annotation" (all [lit "+?:", ref "type"]),
    def_ "opting_type_annotation" (all [lit "?:", ref "type"]),
    def_ "type_annotation" (all [lit ":", any [ref "type",
      shownMember "_type_query_member_expression_in_type_annotation",
      shownCall "_type_query_call_expression_in_type_annotation"]]),
    def_ "_type_query_member_expression_in_type_annotation" (all [
      .field "object" (any [ref "import",
        shownMember "_type_query_member_expression_in_type_annotation",
        shownCall "_type_query_call_expression_in_type_annotation"]),
      lit ".", .field "property" memberName]),
    def_ "_type_query_call_expression_in_type_annotation" (all [
      .field "function" (any [ref "import",
        shownMember "_type_query_member_expression_in_type_annotation"]),
      holds "arguments" "arguments"]),
    def_ "asserts" (all [lit "asserts", oneRule ["type_predicate", "identifier", "this"]]),
    def_ "asserts_annotation" (all [lit ":", ref "asserts"]),
    def_ "type" (any [ref "primary_type", ref "function_type", ref "readonly_type",
      ref "constructor_type", ref "infer_type",
      .ranked (.level (-1)) none (shownMember "_type_query_member_expression_in_type_annotation"),
      .ranked (.level (-1)) none (shownCall "_type_query_call_expression_in_type_annotation")]),
    def_ "tuple_parameter" (all [.field "name" (oneRule ["identifier", "rest_pattern"]),
      holds "type" "type_annotation"]),
    def_ "optional_tuple_parameter" (all [holds "name" "identifier", lit "?",
      holds "type" "type_annotation"]),
    def_ "optional_type" (all [ref "type", lit "?"]),
    def_ "rest_type" (all [lit "...", ref "type"]),
    def_ "_tuple_type_member" (any [as (ref "tuple_parameter") "required_parameter",
      as (ref "optional_tuple_parameter") "optional_parameter", ref "optional_type",
      ref "rest_type", ref "type"]),
    def_ "constructor_type" (left (all [opt (lit "abstract"), lit "new",
      mayHold "type_parameters" "type_parameters", holds "parameters" "formal_parameters", lit "=>",
      holds "type" "type"])),
    def_ "primary_type" (any [ref "parenthesized_type", ref "predefined_type",
      ref "_type_identifier",
      ref "nested_type_identifier", ref "generic_type", ref "object_type", ref "array_type",
      ref "tuple_type", ref "flow_maybe_type", ref "type_query", ref "index_type_query",
      as (ref "this") "this_type", ref "existential_type", ref "literal_type", ref "lookup_type",
      ref "conditional_type", ref "template_literal_type", ref "intersection_type",
      ref "union_type", lit "const"]),
    def_ "template_type" (all [lit "$\x7b", oneRule ["primary_type", "infer_type"], closeBrace]),
    def_ "template_literal_type" (quoted "`" (any [as (ref "_template_chars") "string_fragment",
      ref "template_type"])),
    def_ "infer_type" (right (all [lit "infer", ref "_type_identifier",
      opt (all [lit "extends", ref "type"])])),
    def_ "conditional_type" (right (all [holds "left" "type", lit "extends", holds "right" "type",
      lit "?", holds "consequence" "type", lit ":", holds "alternative" "type"])),
    def_ "generic_type" (at_ "call" (all [
      .field "name" (oneRule ["_type_identifier", "nested_type_identifier"]),
      holds "type_arguments" "type_arguments"])),
    def_ "type_predicate" (all [
      .field "name" (any [ref "identifier", ref "this", as (ref "predefined_type") "identifier"]),
      lit "is", holds "type" "type"]),
    def_ "type_predicate_annotation" (all [lit ":", ref "type_predicate"]),
    def_ "_type_query_member_expression" (all [
      .field "object" (any [ref "identifier", ref "this",
        shownSubscript "_type_query_subscript_expression",
          shownMember "_type_query_member_expression",
        shownCall "_type_query_call_expression"]),
      oneOf [".", "?."], .field "property" memberName]),
    def_ "_type_query_subscript_expression" (all [
      .field "object" (any [ref "identifier", ref "this",
        shownSubscript "_type_query_subscript_expression",
          shownMember "_type_query_member_expression",
        shownCall "_type_query_call_expression"]),
      opt (lit "?."), lit "[", .field "index" (oneRule ["predefined_type", "string", "number"]),
      lit "]"]),
    def_ "_type_query_call_expression" (all [
      .field "function" (any [ref "import", ref "identifier",
        shownMember "_type_query_member_expression",
        shownSubscript "_type_query_subscript_expression"]),
      holds "arguments" "arguments"]),
    def_ "_type_query_instantiation_expression" (all [
      .field "function" (any [ref "import", ref "identifier",
        shownMember "_type_query_member_expression",
        shownSubscript "_type_query_subscript_expression"]),
      holds "type_arguments" "type_arguments"]),
    def_ "type_query" (right (all [lit "typeof", any [
      shownSubscript "_type_query_subscript_expression",
        shownMember "_type_query_member_expression",
      shownCall "_type_query_call_expression",
      as (ref "_type_query_instantiation_expression") "instantiation_expression",
      ref "identifier", ref "this"]])),
    def_ "index_type_query" (all [lit "keyof", ref "primary_type"]),
    def_ "lookup_type" (all [ref "primary_type", lit "[", ref "type", lit "]"]),
    def_ "mapped_type_clause" (all [holds "name" "_type_identifier", lit "in", holds "type" "type",
      opt (all [lit "as", holds "alias" "type"])]),
    def_ "literal_type" (any [as (ref "_number") "unary_expression", ref "number", ref "string",
      ref "true", ref "false", ref "null", ref "undefined"]),
    def_ "_number" (.ranked (.level 1) (some .left) (all [.field "operator" (oneOf ["-", "+"]),
      holds "argument" "number"])),
    def_ "existential_type" (lit "*"),
    def_ "flow_maybe_type" (right (all [lit "?", ref "primary_type"])),
    def_ "parenthesized_type" (all [lit "(", ref "type", lit ")"]),
    def_ "predefined_type" (any [lit "any", lit "number", lit "boolean", lit "string", lit "symbol",
      .shown (all [lit "unique", lit "symbol"]) "unique symbol" false, lit "void", lit "unknown",
      lit "string", lit "never", lit "object"]),
    def_ "type_arguments" (all [lit "<", commas1 (ref "type"), opt (lit ","), lit ">"]),
    def_ "object_type" (all [oneOf ["\x7b", "\x7b|"],
      opt (all [opt (oneOf [",", ";"]),
        sepBy1 (any [lit ",", ref "_semicolon"])
          (oneRule ["export_statement", "property_signature", "call_signature",
            "construct_signature", "index_signature", "method_signature"]),
        opt (any [lit ",", ref "_semicolon"])]),
      oneOf ["\x7d", "|\x7d"]]),
    def_ "call_signature" (ref "_call_signature"),
    def_ "property_signature" (all [opt (ref "accessibility_modifier"), opt (lit "static"),
      opt (ref "override_modifier"), opt (lit "readonly"), holds "name" "_property_name",
      opt (lit "?"), mayHold "type" "type_annotation"]),
    def_ "type_parameters" (all [lit "<", commas1 (ref "type_parameter"), opt (lit ","), lit ">"]),
    def_ "type_parameter" (all [opt (lit "const"), holds "name" "_type_identifier",
      mayHold "constraint" "constraint", mayHold "value" "default_type"]),
    def_ "default_type" (all [lit "=", ref "type"]),
    def_ "constraint" (all [oneOf ["extends", ":"], ref "type"]),
    def_ "construct_signature" (all [opt (lit "abstract"), lit "new",
      mayHold "type_parameters" "type_parameters", holds "parameters" "formal_parameters",
      mayHold "type" "type_annotation"]),
    def_ "index_signature" (all [
      opt (all [.field "sign" (opt (oneOf ["-", "+"])), lit "readonly"]),
      lit "[",
      any [all [.field "name" (any [ref "identifier",
        as (ref "_reserved_identifier") "identifier"]),
          lit ":", holds "index_type" "type"],
        ref "mapped_type_clause"],
      lit "]",
      .field "type" (oneRule ["type_annotation", "omitting_type_annotation",
        "adding_type_annotation",
        "opting_type_annotation"])]),
    def_ "array_type" (all [ref "primary_type", lit "[", lit "]"]),
    def_ "tuple_type" (all [lit "[", commas (ref "_tuple_type_member"), opt (lit ","), lit "]"]),
    def_ "readonly_type" (all [lit "readonly", ref "type"]),
    def_ "union_type" (left (all [opt (ref "type"), lit "|", ref "type"])),
    def_ "intersection_type" (left (all [opt (ref "type"), lit "&", ref "type"])),
    def_ "function_type" (left (all [mayHold "type_parameters" "type_parameters",
      holds "parameters" "formal_parameters", lit "=>",
      .field "return_type" (oneRule ["type", "asserts", "type_predicate"])])),
    def_ "_type_identifier" (as (ref "identifier") "type_identifier") ]

end ChecklistReview.TypeScript
