import ShapeSearch.Grammar.Vocabulary

/-!
# Node kinds of Rust

The named kinds, anonymous kinds and field names of the Rust grammar.
-/

namespace ShapeSearch
namespace Vocabulary

/-- The named kinds of Rust. -/
def rustKinds : List String :=
  ["abstract_type", "arguments", "array_expression", "array_type", "assignment_expression",
   "associated_type", "async_block", "attribute", "attribute_item", "await_expression",
   "base_field_initializer", "binary_expression", "block", "block_comment", "boolean_literal",
   "bounded_type", "bracketed_type", "break_expression", "call_expression", "captured_pattern",
   "char_literal", "closure_expression", "closure_parameters", "compound_assignment_expr",
   "const_block", "const_item", "const_parameter", "continue_expression", "crate",
   "declaration_list", "doc_comment", "dynamic_type", "else_clause", "empty_statement",
   "enum_item", "enum_variant", "enum_variant_list", "escape_sequence", "expression_statement",
   "extern_crate_declaration", "extern_modifier", "field_declaration", "field_declaration_list",
   "field_expression", "field_identifier", "field_initializer", "field_initializer_list",
   "field_pattern", "float_literal", "for_expression", "for_lifetimes", "foreign_mod_item",
   "fragment_specifier", "function_item", "function_modifiers", "function_signature_item",
   "function_type", "generic_function", "generic_type", "generic_type_with_turbofish",
   "higher_ranked_trait_bound", "identifier", "if_expression", "impl_item", "index_expression",
   "inner_attribute_item", "inner_doc_comment_marker", "integer_literal", "label", "let_chain",
   "let_condition", "let_declaration", "lifetime", "line_comment", "loop_expression",
   "macro_definition", "macro_invocation", "macro_rule", "match_arm", "match_block",
   "match_expression", "match_pattern", "metavariable", "mod_item", "mut_pattern",
   "mutable_specifier", "negative_literal", "never_type", "or_pattern",
   "ordered_field_declaration_list", "outer_doc_comment_marker", "parameter", "parameters",
   "parenthesized_expression", "pointer_type", "primitive_type", "qualified_type",
   "range_expression", "range_pattern", "raw_string_literal", "ref_pattern",
   "reference_expression", "reference_pattern", "reference_type", "remaining_field_pattern",
   "removed_trait_bound", "return_expression", "scoped_identifier", "scoped_type_identifier",
   "scoped_use_list", "self", "self_parameter", "shebang", "shorthand_field_identifier",
   "shorthand_field_initializer", "slice_pattern", "source_file", "static_item", "string_content",
   "string_literal", "struct_expression", "struct_item", "struct_pattern", "super",
   "token_binding_pattern", "token_repetition", "token_repetition_pattern", "token_tree",
   "token_tree_pattern", "trait_bounds", "trait_item", "try_block", "try_expression",
   "tuple_expression", "tuple_pattern", "tuple_struct_pattern", "tuple_type", "type_arguments",
   "type_binding", "type_cast_expression", "type_identifier", "type_item", "type_parameters",
   "unary_expression", "union_item", "unit_expression", "unit_type", "unsafe_block",
   "use_as_clause", "use_declaration", "use_list", "use_wildcard", "variadic_parameter",
   "visibility_modifier", "where_clause", "where_predicate", "while_expression",
   "yield_expression", "type_parameter", "lifetime_parameter", "gen_block", "generic_pattern",
   "use_bounds"]

/-- The anonymous kinds of Rust. -/
def rustTokens : List String :=
  ["end", "(", ")", "[", "]", "\x7b", "\x7d", "::", ";", ":", "$", ",", "=>", "!", "#", "=", "->",
   ".", "..", "...", "..=", "&", "&&", "||", "*", "+", "-", "/", "%", "^", "|", "<<", ">>", "<",
   ">", "<=", ">=", "==", "!=", "+=", "-=", "*=", "/=", "%=", "^=", "&=", "|=", "<<=", ">>=", "?",
   "@", "_", "'", "\"", "as", "async", "await", "break", "const", "continue", "default", "dyn",
   "else", "enum", "extern", "fn", "for", "gen", "if", "impl", "in", "let", "loop", "macro_rules!",
   "match", "mod", "move", "pub", "raw", "ref", "return", "static", "struct", "trait", "type",
   "union", "unsafe", "use", "where", "while", "yield", "try", "block", "expr", "ident", "item",
   "lifetime", "literal", "meta", "pat", "pat_param", "path", "stmt", "tt", "ty", "vis", "u8",
   "i8", "u16", "i16", "u32", "i32", "u64", "i64", "u128", "i128", "isize", "usize", "f32", "f64",
   "bool", "str", "char", "true", "false", "//", "/*", "*/", "mut", "_expression", "_type",
   "_literal", "_pattern", "_declaration_statement"]

/-- The fields of Rust. -/
def rustFields : List String :=
  ["alias", "alternative", "argument", "arguments", "body", "bounds", "condition", "consequence",
   "default_type", "doc", "element", "field", "function", "inner", "left", "length", "list",
   "macro", "name", "operator", "outer", "parameters", "path", "pattern", "return_type", "right",
   "trait", "type", "type_arguments", "type_parameters", "value"]

/-- The vocabulary of Rust. -/
def rust : Vocabulary :=
  ofLists rustKinds rustTokens rustFields

end Vocabulary
end ShapeSearch
