import ShapeSearch.Grammar.Vocabulary

/-!
# Node kinds of Python

The named kinds, anonymous kinds and field names of the Python grammar.
-/

namespace ShapeSearch
namespace Vocabulary

/-- The named kinds of Python. -/
def pythonKinds : List String :=
  ["aliased_import", "argument_list", "as_pattern", "as_pattern_target", "assert_statement",
   "assignment", "attribute", "augmented_assignment", "await", "binary_operator", "block",
   "boolean_operator", "break_statement", "call", "case_clause", "case_pattern", "chevron",
   "class_definition", "class_pattern", "comparison_operator", "complex_pattern",
   "concatenated_string", "conditional_expression", "constrained_type", "continue_statement",
   "decorated_definition", "decorator", "default_parameter", "delete_statement", "dict_pattern",
   "dictionary", "dictionary_comprehension", "dictionary_splat", "dictionary_splat_pattern",
   "dotted_name", "elif_clause", "else_clause", "except_clause", "except_group_clause",
   "exec_statement", "expression_list", "expression_statement", "finally_clause", "for_in_clause",
   "for_statement", "format_expression", "format_specifier", "function_definition",
   "future_import_statement", "generator_expression", "generic_type", "global_statement",
   "if_clause", "if_statement", "import_from_statement", "import_prefix", "import_statement",
   "interpolation", "keyword_argument", "keyword_pattern", "keyword_separator", "lambda",
   "lambda_parameters", "list", "list_comprehension", "list_pattern", "list_splat",
   "list_splat_pattern", "match_statement", "member_type", "module", "named_expression",
   "nonlocal_statement", "not_operator", "pair", "parameters", "parenthesized_expression",
   "parenthesized_list_splat", "pass_statement", "pattern_list", "positional_separator",
   "print_statement", "raise_statement", "relative_import", "return_statement", "set",
   "set_comprehension", "slice", "splat_pattern", "splat_type", "string", "string_content",
   "subscript", "try_statement", "tuple", "tuple_pattern", "type", "type_alias_statement",
   "type_parameter", "typed_default_parameter", "typed_parameter", "unary_operator",
   "union_pattern", "union_type", "while_statement", "wildcard_import", "with_clause", "with_item",
   "with_statement", "yield", "comment", "ellipsis", "escape_interpolation", "escape_sequence",
   "false", "float", "identifier", "integer", "line_continuation", "none", "string_end",
   "string_start", "true", "type_conversion"]

/-- The anonymous kinds of Python. -/
def pythonTokens : List String :=
  ["end", ":", "import", "from", "__future__", "(", ")", ",", "as", "*", "print", ">>", "assert",
   ":=", "return", "del", "raise", "pass", "break", "continue", "if", "elif", "else", "match",
   "case", "async", "for", "in", "while", "try", "except", "except*", "finally", "with", "def",
   "->", "**", "global", "nonlocal", "exec", "type", "=", "class", "[", "]", "@", "-", "_", "|",
   "\x7b", "\x7d", "+", "not", "and", "or", "/", "%", "//", "&", "^", "<<", "~", "<", "<=", "==",
   "!=", ">=", ">", "<>", "is", "lambda", "+=", "-=", "*=", "/=", "@=", "//=", "%=", "**=", ">>=",
   "<<=", "&=", "^=", "|=", "yield", ".", ";", "await", "_newline", "_indent", "_dedent",
   "_string_content", "_expression", "_statement", "_simple_statement", "_compound_statement",
   "_pattern", "_primary_expression", "is not", "not in"]

/-- The fields of Python. -/
def pythonFields : List String :=
  ["alias", "alternative", "argument", "arguments", "attribute", "body", "cause", "code",
   "condition", "consequence", "definition", "expression", "format_specifier", "function", "guard",
   "key", "left", "module_name", "name", "object", "operator", "operators", "parameters",
   "return_type", "right", "subject", "subscript", "superclasses", "type", "type_conversion",
   "type_parameters", "value"]

/-- The vocabulary of Python. -/
def python : Vocabulary :=
  ofLists pythonKinds pythonTokens pythonFields

end Vocabulary
end ShapeSearch
