import ShapeSearch.Grammar.Vocabulary

/-!
# Node kinds of the JavaScript family

The named kinds, anonymous kinds and field names of the JavaScript grammar and of
the two TypeScript grammars built on it.  TypeScript drops the JSX kinds, the
plain class field (it has its own public field definition) and adds the type
language; TSX is TypeScript with JSX back in and without the angle-bracket type
assertion, whose syntax JSX takes over.
-/

namespace ShapeSearch
namespace Vocabulary

/-- The named kinds that only JSX produces. -/
def jsxKinds : List String :=
  ["jsx_attribute", "jsx_closing_element", "jsx_element", "jsx_expression", "jsx_namespace_name",
   "jsx_opening_element", "jsx_self_closing_element", "html_character_reference"]

/-- The fields that only JSX uses. -/
def jsxFields : List String :=
  ["attribute", "open_tag", "close_tag"]

/-- The named kinds of JavaScript. -/
def javascriptKinds : List String :=
  ["arguments", "array", "array_pattern", "arrow_function", "assignment_expression",
   "assignment_pattern", "augmented_assignment_expression", "await_expression",
   "binary_expression", "break_statement", "call_expression", "catch_clause", "class",
   "class_body", "class_declaration", "class_heritage", "class_static_block",
   "computed_property_name", "continue_statement", "debugger_statement", "decorator",
   "do_statement", "else_clause", "empty_statement", "export_clause", "export_specifier",
   "export_statement", "expression_statement", "field_definition", "finally_clause",
   "for_in_statement", "for_statement", "formal_parameters", "function_declaration",
   "function_expression", "generator_function", "generator_function_declaration", "if_statement",
   "import", "import_attribute", "import_clause", "import_specifier", "import_statement",
   "jsx_attribute", "jsx_closing_element", "jsx_element", "jsx_expression", "jsx_namespace_name",
   "jsx_opening_element", "jsx_self_closing_element", "labeled_statement", "lexical_declaration",
   "member_expression", "meta_property", "method_definition", "named_imports", "namespace_export",
   "namespace_import", "new_expression", "object", "object_assignment_pattern", "object_pattern",
   "pair", "pair_pattern", "parenthesized_expression", "program", "regex", "rest_pattern",
   "return_statement", "sequence_expression", "spread_element", "statement_block", "string",
   "subscript_expression", "switch_body", "switch_case", "switch_default", "switch_statement",
   "template_string", "template_substitution", "ternary_expression", "throw_statement",
   "try_statement", "unary_expression", "update_expression", "variable_declaration",
   "variable_declarator", "while_statement", "with_statement", "yield_expression", "comment",
   "escape_sequence", "false", "hash_bang_line", "html_character_reference", "html_comment",
   "identifier", "jsx_text", "null", "number", "optional_chain", "private_property_identifier",
   "property_identifier", "regex_flags", "regex_pattern", "shorthand_property_identifier",
   "shorthand_property_identifier_pattern", "statement_identifier", "string_fragment", "super",
   "this", "true", "undefined"]

/-- The anonymous kinds of JavaScript. -/
def javascriptTokens : List String :=
  ["end", "export", "*", "default", "as", "\x7b", ",", "\x7d", ";", "import", "from", "with",
   "var", "let", "const", "else", "if", "switch", "for", "(", ")", "await", "in", "of", "while",
   "do", "try", "break", "continue", "debugger", "return", "throw", ":", "case", "catch",
   "finally", "yield", "=", "[", "]", "<", ">", "</", "/>", ".", "/", "\"", "'", "class",
   "extends", "static", "async", "function", "=>", "new", "target", "meta", "...", "+=", "-=",
   "*=", "/=", "%=", "^=", "&=", "|=", ">>=", ">>>=", "<<=", "**=", "&&=", "||=", "??=", "?", "&&",
   "||", ">>", ">>>", "<<", "&", "^", "|", "+", "-", "%", "**", "<=", "==", "===", "!=", "!==",
   ">=", "??", "instanceof", "!", "~", "typeof", "void", "delete", "++", "--", "`", "$\x7b", "@",
   "get", "set", "_automatic_semicolon", "_template_chars", "_ternary_qmark", "_expression",
   "_statement", "_declaration", "_pattern", "_primary_expression", "static get"]

/-- The fields of JavaScript. -/
def javascriptFields : List String :=
  ["alias", "alternative", "argument", "arguments", "attribute", "body", "close_tag", "condition",
   "consequence", "constructor", "declaration", "decorator", "finalizer", "flags", "function",
   "handler", "increment", "index", "initializer", "key", "kind", "label", "left", "member",
   "name", "object", "open_tag", "operator", "optional_chain", "parameter", "parameters",
   "pattern", "property", "right", "source", "value"]

/-- The named kinds that TypeScript adds to JavaScript. -/
def typeKinds : List String :=
  ["abstract_class_declaration", "abstract_method_signature", "accessibility_modifier",
   "adding_type_annotation", "ambient_declaration", "array_type", "as_expression", "asserts",
   "asserts_annotation", "call_signature", "conditional_type", "constraint", "construct_signature",
   "constructor_type", "default_type", "enum_assignment", "enum_body", "enum_declaration",
   "existential_type", "extends_clause", "extends_type_clause", "flow_maybe_type",
   "function_signature", "function_type", "generic_type", "implements_clause", "import_alias",
   "import_require_clause", "index_signature", "index_type_query", "infer_type",
   "instantiation_expression", "interface_body", "interface_declaration", "internal_module",
   "intersection_type", "literal_type", "lookup_type", "mapped_type_clause", "method_signature",
   "module", "nested_identifier", "nested_type_identifier", "non_null_expression", "object_type",
   "omitting_type_annotation", "opting_type_annotation", "optional_parameter", "optional_type",
   "override_modifier", "parenthesized_type", "predefined_type", "property_signature",
   "public_field_definition", "readonly_type", "required_parameter", "rest_type",
   "satisfies_expression", "template_literal_type", "template_type", "this_type", "tuple_type",
   "type_alias_declaration", "type_annotation", "type_arguments", "type_assertion",
   "type_identifier", "type_parameter", "type_parameters", "type_predicate",
   "type_predicate_annotation", "type_query", "union_type"]

/-- The anonymous kinds that TypeScript adds to JavaScript. -/
def typeTokens : List String :=
  ["abstract", "declare", "namespace", "module", "global", "type", "interface", "implements",
   "enum", "readonly", "keyof", "infer", "is", "asserts", "satisfies", "private", "protected",
   "public", "override", "accessor", "any", "number", "boolean", "string", "symbol", "unknown",
   "never", "object", "require", "-?", "+?", "?:", "-?:", "+?:", "\x7b|", "|\x7d", "_type",
   "_primary_type", "_function_signature_automatic_semicolon", "__error_recovery", "unique symbol"]

/-- The fields that TypeScript adds to JavaScript. -/
def typeFields : List String :=
  ["index_type", "module", "return_type", "sign", "type", "type_arguments", "type_parameters"]

/-- The vocabulary of JavaScript. -/
def javascript : Vocabulary :=
  ofLists javascriptKinds javascriptTokens javascriptFields

/-- The vocabulary of TypeScript. -/
def typescript : Vocabulary :=
  ofLists
    ((javascriptKinds.filter fun k => !jsxKinds.contains k && k != "field_definition") ++ typeKinds)
    (javascriptTokens ++ typeTokens)
    ((javascriptFields.filter fun f => !jsxFields.contains f) ++ typeFields)

/-- The vocabulary of TypeScript with JSX. -/
def tsx : Vocabulary :=
  ofLists
    ((javascriptKinds.filter fun k => !jsxKinds.contains k && k != "field_definition") ++
      typeKinds.filter (· != "type_assertion") ++ jsxKinds)
    (javascriptTokens ++ typeTokens)
    ((javascriptFields.filter fun f => !jsxFields.contains f) ++ typeFields ++ jsxFields)

end Vocabulary
end ShapeSearch
