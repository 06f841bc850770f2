import SandboxLint.Syntax.Declaration

/-!
Parameters of method-like declarations and lambdas, and arguments of calls. A
parameter is either a node of its own or a group of loose tokens between commas,
which is how a `params` array may come.
-/

namespace SandboxLint

/-- A parameter: where it stands, its name and type as written, its flags such as `ref` or
`params`, and whether it has a default. -/
structure Parameter where
  node : Node
  name : String
  typeText : String
  flags : List String
  hasDefault : Bool

namespace Parameter

/-- The keywords that are kept as flags. -/
def flagWords : List String := ["ref", "out", "in", "params", "this"]

def isByReference (p : Parameter) : Bool :=
  p.flags.contains "ref" || p.flags.contains "out"

def isParams (p : Parameter) : Bool :=
  p.flags.contains "params"

/-- What a token of a parameter contributes. -/
inductive TokenRole where
  | flags (words : List String)
  | default
  | other

/-- The role of a token: modifiers and bare keywords give flags, an equals sign or clause a
default, a reference type the flag `ref`. -/
def tokenRole (node : Node) : TokenRole :=
  if node.kind == "modifier" || node.kind == "parameter_modifier" then
    .flags ((Text.words node.text).filter flagWords.contains)
  else if !node.named && flagWords.contains node.text then .flags [node.text]
  else if node.kind == "=" || node.kind == "equals_value_clause" then .default
  else if node.kind == "ref_type" then .flags ["ref"]
  else .other

/-- The flags that one token contributes. -/
def tokenFlags (node : Node) : List String :=
  match tokenRole node with
  | .flags words => words
  | _ => []

/-- Whether a token introduces a default. -/
def startsDefault (node : Node) : Bool :=
  match tokenRole node with
  | .default => true
  | _ => false

def ofNode (owner : Node) : Option Parameter :=
  let typeNode := owner.child? "type"
  let typeText := Node.textOf typeNode
  let written := Node.textOf (owner.child? "name")
  let name := if written == "" then owner.declaredName else written
  let ofType :=
    match typeNode with
    | some t => if t.kind == "ref_type" then ["ref"] else []
    | none => []
  if name == "" && typeText == "" then none
  else
    some
      { node := owner, name, typeText
        flags := (owner.children.flatMap tokenFlags ++ ofType).eraseDups
        hasDefault := owner.children.any startsDefault }

/-- Reads a group of loose tokens: its last named token is the name, the one before the type. -/
def ofTokens (first : Node) (tokens : List Node) : Option Parameter :=
  let named := (tokens.filter fun t =>
    t.named && t.kind != "attribute_list" && t.kind != "modifier").reverse
  let name := Node.textOf named.head?
  let typeText := Node.textOf (named.drop 1).head?
  if name == "" && typeText == "" then none
  else
    some
      { node := first, name, typeText
        flags := (tokens.flatMap tokenFlags).eraseDups
        hasDefault := tokens.any startsDefault }

/-- Reads what stands between two commas. -/
def ofGroup : List Node → Option Parameter
  | [] => none
  | [one] => if one.kind == "parameter" then ofNode one else ofTokens one [one]
  | first :: rest => ofTokens first (first :: rest)

/-- The children of a parameter list between its commas, parentheses left out. -/
def groups : List Node → List (List Node)
  | [] => [[]]
  | child :: rest =>
      if child.kind == "(" || child.kind == ")" then groups rest
      else if child.kind == "," then [] :: groups rest
      else
        match groups rest with
        | group :: more => (child :: group) :: more
        | [] => [[child]]

end Parameter

namespace Node

def parameterList (node : Node) : Option Node :=
  (node.child? "parameters").or (node.childOfKind? "parameter_list")

/-- The parameters of a method-like declaration or lambda. -/
def parameters (node : Node) : List Parameter :=
  match node.parameterList with
  | none => []
  | some list =>
      -- a lone name is one untyped parameter
      if list.kind == "identifier" || list.kind == "implicit_parameter" then
        [{ node := list, name := list.text, typeText := "", flags := [], hasDefault := false }]
      else (Parameter.groups list.children).filterMap Parameter.ofGroup

def argumentNodes (call : Node) : List Node :=
  match call.child? "arguments" with
  | none => []
  | some list => list.namedChildren.filter (·.kind == "argument")

def argumentCount (call : Node) : Nat :=
  call.argumentNodes.length

/-- The expression of an argument node, without a name in front of it. -/
def argumentExpression (argument : Node) : Option Node :=
  (argument.child? "expression").or
    (argument.namedChildren.filter (·.kind != "name_colon")).getLast?

/-- The expressions of a call's arguments, in order. -/
def arguments (call : Node) : List (Option Node) :=
  call.argumentNodes.map argumentExpression

end Node
end SandboxLint
