import ChecklistReview.Grammar.Parse
import ChecklistReview.TypeScript.Rules

/-!
# The two dialects

The grammar of TypeScript and that of its dialect with markup, prepared for parsing.

## Main definitions

* `grammar` puts the rules of a dialect together with the order of their ranks.
* `language` is the prepared grammar, and `parse` reads a text with it.
-/

namespace ChecklistReview.TypeScript

open Grammar

/-- The order of operators from the one that binds most tightly. -/
def operatorRanks : List Tier :=
  [.named "member", .named "template_call", .named "call", .rule "update_expression",
    .named "unary_void", .named "binary_exp", .named "binary_times", .named "binary_plus",
    .named "binary_shift", .named "binary_compare", .named "binary_relation",
    .named "binary_equality", .named "bitwise_and", .named "bitwise_xor", .named "bitwise_or",
    .named "logical_and", .named "logical_or", .named "ternary", .rule "sequence_expression",
    .rule "arrow_function"]

/-- The orderings that settle conflicts. -/
def orderings : List (List Tier) :=
  [ operatorRanks,
    [.named "assign", .rule "primary_expression"],
    [.named "member", .named "template_call", .named "new", .named "call", .rule "expression"],
    [.named "declare", .named "literal"],
    [.rule "primary_expression", .rule "statement_block", .named "object"],
    [.rule "meta_property", .rule "import"],
    [.rule "import_statement", .rule "import"],
    [.rule "export_statement", .rule "primary_expression"],
    [.rule "lexical_declaration", .rule "primary_expression"],
    [.named "call", .named "instantiation", .named "unary", .named "binary",
      .rule "await_expression", .rule "arrow_function"],
    [.named "extends", .named "instantiation"],
    [.rule "intersection_type", .rule "union_type", .rule "conditional_type", .rule "function_type",
      .named "binary", .rule "type_predicate", .rule "readonly_type"],
    [.rule "mapped_type_clause", .rule "primary_expression"],
    [.rule "accessibility_modifier", .rule "primary_expression"],
    [.named "unary_void", .rule "expression"],
    [.rule "extends_clause", .rule "primary_expression"],
    [.named "unary", .named "assign"],
    [.named "declare", .rule "expression"],
    [.rule "predefined_type", .rule "unary_expression"],
    [.rule "type", .rule "flow_maybe_type"],
    [.rule "tuple_type", .rule "array_type", .rule "pattern", .rule "type"],
    [.rule "readonly_type", .rule "pattern"],
    [.rule "readonly_type", .rule "primary_expression"],
    [.rule "type_query", .rule "subscript_expression", .rule "expression"],
    [.rule "type_query", .rule "_type_query_subscript_expression"],
    [.rule "nested_type_identifier", .rule "generic_type", .rule "primary_type",
      .rule "lookup_type", .rule "index_type_query", .rule "type"],
    [.rule "as_expression", .rule "satisfies_expression", .rule "primary_type"],
    [.rule "_type_query_member_expression", .rule "member_expression"],
    [.rule "member_expression", .rule "_type_query_member_expression_in_type_annotation"],
    [.rule "_type_query_member_expression", .rule "primary_expression"],
    [.rule "_type_query_subscript_expression", .rule "subscript_expression"],
    [.rule "_type_query_subscript_expression", .rule "primary_expression"],
    [.rule "_type_query_call_expression", .rule "primary_expression"],
    [.rule "_type_query_instantiation_expression", .rule "primary_expression"],
    [.rule "type_query", .rule "primary_expression"],
    [.rule "override_modifier", .rule "primary_expression"],
    [.rule "decorator_call_expression", .rule "decorator"],
    [.rule "literal_type", .rule "pattern"],
    [.rule "predefined_type", .rule "pattern"],
    [.rule "call_expression", .rule "_type_query_call_expression"],
    [.rule "call_expression", .rule "_type_query_call_expression_in_type_annotation"],
    [.rule "new_expression", .rule "primary_expression"],
    [.rule "meta_property", .rule "primary_expression"],
    [.rule "construct_signature", .rule "_property_name"] ]

/-- The grammar of a dialect. -/
def grammar (dialect : Dialect) : Description :=
  { definitions := modules ++ statements ++ expressions dialect ++ markup ++ functions ++
      operations ++ primitives ++ members ++ typedMembers ++ types
    word := "identifier"
    extras := ["comment", "html_comment"]
    isBlank
    externals := ["_automatic_semicolon", "_template_chars", "_ternary_qmark", "html_comment", "||",
      "escape_sequence", "regex_pattern", "jsx_text", "_function_signature_automatic_semicolon"]
    scanExternal := scanContext
    unrecoverable := ["unescaped_double_string_fragment", "unescaped_single_string_fragment",
      "unescaped_double_jsx_string_fragment", "unescaped_single_jsx_string_fragment",
      "regex_pattern", "regex_close", "regex_flags", "hash_bang_line"]
    groups := ["statement", "declaration", "expression", "primary_expression", "pattern", "type",
      "primary_type"]
    inlined := ["_expressions", "_semicolon", "_identifier", "_reserved_identifier",
      "_jsx_attribute", "_jsx_element_name", "_jsx_child", "_jsx_element", "_jsx_attribute_name",
      "_jsx_attribute_value", "_jsx_identifier", "_lhs_expression", "_type_identifier",
      "_jsx_start_opening_element"]
    orderings }

/-- Plain TypeScript, prepared for parsing. -/
def plainLanguage : Language := .ofDescription (grammar .plain)

/-- TypeScript with markup, prepared for parsing. -/
def markupLanguage : Language := .ofDescription (grammar .markup)

/-- A dialect, prepared for parsing. -/
def language : Dialect → Language
  | .plain => plainLanguage
  | .markup => markupLanguage

/-- The syntax tree of a text in a dialect. -/
def parse (dialect : Dialect) (text : Array Char) : Tree := (language dialect).parse text

end ChecklistReview.TypeScript
