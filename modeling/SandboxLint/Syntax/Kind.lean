/-!
The kinds of syntax nodes that the analysis tells apart, in groups.
-/

namespace SandboxLint.Kind

/-- Conditional and region wrappers; declarations inside them belong to what is around. -/
def wrappers : List String :=
  ["preproc_if", "preproc_ifdef", "preproc_elif", "preproc_else", "preproc_region"]

/-- Type declarations that hold fields and methods. -/
def memberHolders : List String :=
  ["class_declaration", "struct_declaration", "interface_declaration", "record_declaration",
    "record_struct_declaration"]

def typeDeclarations : List String :=
  "enum_declaration" :: memberHolders

def namespaceDeclarations : List String :=
  ["namespace_declaration", "file_scoped_namespace_declaration"]

/-- Members whose bodies open a lexical scope. -/
def functionMembers : List String :=
  ["method_declaration", "constructor_declaration", "destructor_declaration",
    "operator_declaration", "conversion_operator_declaration", "property_declaration",
    "indexer_declaration", "event_declaration", "field_declaration"]

def thisNodes : List String := ["this", "this_expression"]

def baseNodes : List String := ["base", "base_expression"]

/-- Places in which an identifier that fills the field `name` declares it. -/
def declaringParents : List String :=
  typeDeclarations ++ namespaceDeclarations ++
    ["method_declaration", "constructor_declaration", "destructor_declaration",
      "property_declaration", "event_declaration", "local_function_statement",
      "variable_declarator", "parameter", "type_parameter", "enum_member_declaration",
      "catch_declaration", "declaration_expression", "declaration_pattern",
      "labeled_statement", "name_colon", "name_equals"]

end SandboxLint.Kind
