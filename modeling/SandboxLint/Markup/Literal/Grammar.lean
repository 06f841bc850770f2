import SandboxLint.Markup.Literal.Peg

/-!
The grammar of expressions, as a table of rules. Expressions in square brackets are left
out, because what is read here never has such brackets. Rules that begin with `bad` describe
mistakes and the words that are used for them.
-/

namespace SandboxLint
namespace Literal

inductive Rule where
  | whole
  | embedded
  | expressions
  | expression
  | faultlessExpression
  | badExpression
  | badStatement
  | yielded
  | starExpressions
  | starExpression
  | starNamedExpressions
  | starNamedExpression
  | assignment
  | namedExpression
  | badNamedExpression
  | disjunction
  | conjunction
  | inversion
  | comparison
  | comparisonTail
  | bitOr
  | bitXor
  | bitAnd
  | shift
  | sum
  | term
  | factor
  | power
  | awaited
  | primary
  | atom
  | group
  | badGroup
  | tuple
  | set
  | mapping
  | pairs
  | pair
  | keyValue
  | badPairs
  | badPair
  | loops
  | loop
  | badLoop
  | generator
  | setLoop
  | mappingLoop
  | badLoopItem
  | badMappingLoop
  | function
  | parameters
  | goodParameters
  | slashed
  | slashedDefault
  | starParameters
  | otherParameters
  | plainParameter
  | defaultParameter
  | anyParameter
  | default
  | badParameters
  | defaultsBefore
  | badStarParameters
  | badOtherParameters
  | badDefault
  | arguments
  | args
  | keywordArgs
  | starredExpression
  | keywordOrStarred
  | keywordOrUnpacked
  | badArguments
  | badKeyword
  | targets
  | target
  | plainTarget
  | atomTarget
  | tupleTargets
  | targetPrimary
  | targetGoesOn
  deriving DecidableEq, Repr

namespace Rule

open Peg

/-- An alternative that stands for its first part. -/
def first (items : List (Item Rule)) : Alternative Rule :=
  { items }

/-- An alternative that stands for all its parts. -/
def all (items : List (Item Rule)) : Alternative Rule :=
  { items, reply := fun found => .part (.row found.parts) }

/-- An alternative that stands for an expression. -/
def made (items : List (Item Rule)) (expr : Found → Node) : Alternative Rule :=
  { items, reply := fun found => .part (.node (expr found) (Part.depthOf found.parts + 1)) }

/-- An alternative that stands for an expression of which only the name matters. -/
def called (label : String) (items : List (Item Rule)) : Alternative Rule :=
  made items fun _ => .other label

/-- An alternative that stands for a word. -/
def worded (word : String) (items : List (Item Rule)) : Alternative Rule :=
  { items, reply := fun found => .part (.word word (Part.depthOf found.parts)) }

/-- An alternative that is a mistake. -/
def wrong (message : String) (items : List (Item Rule)) : Alternative Rule :=
  { items, reply := fun _ => .mistake message }

/-- An alternative for mistakes that another rule describes. -/
def mistakes (rule : Rule) : Alternative Rule :=
  { items := [.rule rule], forMistakes := true }

/-- Alternatives that are single symbols. -/
def symbols (texts : List String) : Item Rule :=
  .oneOf (texts.map fun text => [.symbol text])

/-- Operands of one rule with operators between them, which are grouped from the left. -/
def operation (operand : Rule) (operators : List String) (expr : Node → Node → Node) : Shape Rule :=
  .growing [first [.rule operand]] (operators.map fun operator =>
    made [.symbol operator, .rule operand] fun found => expr (found.node 0) (found.node 2))

/-- An operation of which nothing but its name matters. -/
def anyOperation (_ _ : Node) : Node :=
  .other "expression"

/-- Operands of one rule with a word between them. -/
def joined (operand : Rule) (word : String) : Shape Rule :=
  .choice [
    called "expression" [.rule operand, .several (.oneOf [[.symbol word, .rule operand]])],
    first [.rule operand]]

/-- The tuple of all expressions that were found. -/
def tupleOf (found : Found) : Node :=
  .tuple (Part.row found.parts).nodes

/-- Expressions of one rule with commas between them: a tuple, or a single one without a comma. -/
def row (item : Rule) : Shape Rule :=
  .choice [
    made [.rule item, .several (.oneOf [[.symbol ",", .rule item]]), .maybe (.symbol ",")] tupleOf,
    made [.rule item, .symbol ","] tupleOf,
    first [.rule item]]

/-- Words that begin old statements, which are names now. -/
def isOldStatement : Node → Bool
  | .name text => text == "print" || text == "exec"
  | _ => false

/-! Expressions. -/

/-- A condition with its alternative, an expression without one, and a function. -/
def plainExpressions : List (Alternative Rule) :=
  [called "conditional expression"
      [.rule .disjunction, .symbol "if", .rule .disjunction, .symbol "else", .rule .expression],
    first [.rule .disjunction],
    first [.rule .function]]

def badExpressions : List (Alternative Rule) :=
  [{ items := [
        .notAhead (.oneOf [[.name, .text], [.softWord]]),
        .rule .disjunction,
        .faultless .faultlessExpression]
     reply := fun found =>
       if isOldStatement (found.node 0) || found.brackets == 0 then .nothing
       else .mistake "invalid syntax. Perhaps you forgot a comma?" },
    wrong "expected 'else' after 'if' expression"
      [.rule .disjunction, .symbol "if", .rule .disjunction, .notAhead (symbols ["else", ":"])]]

def badStatements : List (Alternative Rule) :=
  [{ items := [.name, .notAhead (.symbol "("), .rule .starExpressions]
     reply := fun found =>
       match found.node 0 with
       | .name text =>
           if isOldStatement (.name text) then
             .mistake ("Missing parentheses in call to '" ++ text ++ "'. Did you mean " ++ text ++
               "(...)?")
           else .nothing
       | _ => .nothing }]

def badNamedExpressions : List (Alternative Rule) :=
  let noMore : Item Rule := .notAhead (symbols ["=", ":="])
  [{ items := [.rule .expression, .symbol ":=", .rule .expression]
     reply := fun found =>
       .mistake ("cannot use assignment expressions with " ++ (found.node 0).label) },
    wrong "invalid syntax. Maybe you meant '==' or ':=' instead of '='?"
      [.name, .symbol "=", .rule .bitOr, noMore],
    { items := [
        .notAhead (.oneOf
          [[.rule .tuple], [.rule .generator], [.symbol "True"], [.symbol "None"], [.symbol "False"]]),
        .rule .bitOr, .symbol "=", .rule .bitOr, noMore]
      reply := fun found =>
        .mistake ("cannot assign to " ++ (found.node 0).label ++
          " here. Maybe you meant '==' instead of '='?") }]

def comparisons : List (List String) :=
  [["=="], ["!="], ["<="], ["<"], [">="], [">"], ["not", "in"], ["in"], ["is", "not"], ["is"]]

def comparisonTails : List (Alternative Rule) :=
  comparisons.map fun words =>
    worded (" ".intercalate words) [.oneOf [words.map .symbol ++ [.rule .bitOr]]]

/-- A comparison by the operators in it. -/
def compared (found : Found) : Node :=
  let isMembership := match (found.part 1).leaves with
    | .word word _ :: _ => word == "in"
    | _ => false
  .comparison isMembership (found.node 0)

def factors : List (Alternative Rule) :=
  let signed := fun (sign : String) => made [.symbol sign, .rule .factor] fun found =>
    .signed (found.node 1)
  [signed "+", signed "-", called "expression" [.symbol "~", .rule .factor], first [.rule .power]]

def callOf (found : Found) : Node :=
  match found.node 0, (found.part 2).leaves with
  -- there is no other way to write an empty set
  | .name "set", [] => .emptySet
  | _, _ => .other "function call"

/-- What may follow an operand directly, each with the same items behind. -/
def trailers (behind : List (Item Rule)) : List (Alternative Rule) :=
  [made ([.symbol ".", .name] ++ behind) fun _ => .attributeOf,
    called "function call" ([.rule .generator] ++ behind),
    made ([.symbol "(", .maybe (.rule .arguments), .symbol ")"] ++ behind) callOf]

def atoms : List (Alternative Rule) :=
  let constant := fun (word : String) => made [.symbol word] fun _ => .constant word
  [first [.name], constant "True", constant "False", constant "None",
    first [.ahead .text, .texts],
    first [.number],
    first [.ahead (.symbol "("), .oneOf [[.rule .tuple], [.rule .group], [.rule .generator]]],
    first [.ahead (.symbol "\x7b"),
      .oneOf [[.rule .mapping], [.rule .set], [.rule .mappingLoop], [.rule .setLoop]]],
    made [.symbol "..."] fun _ => .constant "ellipsis"]

/-! What stands in brackets. -/

def groups : List (Alternative Rule) :=
  [{ items := [.symbol "(", .oneOf [[.rule .yielded], [.rule .namedExpression]], .symbol ")"]
     reply := fun found => .part (found.part 1) },
    mistakes .badGroup]

def badGroups : List (Alternative Rule) :=
  [wrong "cannot use starred expression here"
      [.symbol "(", .rule .starredExpression, .symbol ")"],
    wrong "cannot use double starred expression here"
      [.symbol "(", .symbol "**", .rule .expression, .symbol ")"]]

def mappings : List (Alternative Rule) :=
  [made [.symbol "\x7b", .maybe (.rule .pairs), .symbol "\x7d"] fun found =>
      .mapping (found.part 1).pairs,
    first [.symbol "\x7b", .rule .badPairs, .symbol "\x7d"]]

/-- A pair of a mapping. -/
def pairAlternatives : List (Alternative Rule) :=
  [{ items := [.symbol "**", .rule .bitOr]
     -- the pairs of another mapping, which have no key of their own here
     reply := fun found => .part (.row [.node .missing, found.part 1]) },
    first [.rule .keyValue]]

/-- The mistakes in the value of a pair. -/
def badValues : List (Alternative Rule) :=
  [wrong "cannot use a starred expression in a dictionary value"
      [.rule .expression, .symbol ":", .symbol "*", .rule .bitOr],
    wrong "expression expected after dictionary key and ':'"
      [.rule .expression, .symbol ":", .ahead (symbols ["\x7d", ","])]]

def loopAlternatives : List (Alternative Rule) :=
  let clause : List (Item Rule) := [.symbol "for", .rule .targets, .symbol "in", .commit,
    .rule .disjunction, .many (.oneOf [[.symbol "if", .rule .disjunction]])]
  [all (.symbol "async" :: clause), all clause, mistakes .badLoop]

def badLoops : List (Alternative Rule) :=
  [{ items := [.maybe (.symbol "async"), .symbol "for", .rule .starExpressions]
     reply := fun found =>
       match (found.node 2).fixedPart? with
       | some part => .mistake ("cannot assign to " ++ part.label)
       | none => .nothing }]

/-- An expression that may be given a name, but is not followed by the sign for that. -/
def argumentValue : Item Rule :=
  .oneOf [[.rule .assignment], [.rule .expression, .notAhead (.symbol ":=")]]

def badLoopItems : List (Alternative Rule) :=
  let message := "did you forget parentheses around the comprehension target?"
  [wrong "iterable unpacking cannot be used in comprehension"
      [symbols ["(", "\x7b"], .rule .starredExpression, .rule .loops],
    wrong message
      [.symbol "\x7b", .rule .starNamedExpression, .symbol ",", .rule .starNamedExpressions,
        .rule .loops],
    wrong message [.symbol "\x7b", .rule .starNamedExpression, .symbol ",", .rule .loops]]

/-! Functions without a name. -/

/-- A parameter list may go on behind a comma, or end before the colon. -/
def parameterEnds (items : List (Item Rule)) : Shape Rule :=
  .choice [all (items ++ [.symbol ","]), all (items ++ [.ahead (.symbol ":")])]

def parameterLists : List (Alternative Rule) :=
  let plain : Item Rule := .rule .plainParameter
  let withDefault : Item Rule := .rule .defaultParameter
  let rest : Item Rule := .maybe (.rule .starParameters)
  [all [.rule .slashed, .many plain, .many withDefault, rest],
    all [.rule .slashedDefault, .many withDefault, rest],
    all [.several plain, .many withDefault, rest],
    all [.several withDefault, rest],
    all [.rule .starParameters]]

def starParameterLists : List (Alternative Rule) :=
  let rest : Item Rule := .maybe (.rule .otherParameters)
  [mistakes .badStarParameters,
    all [.symbol "*", .rule .plainParameter, .many (.rule .anyParameter), rest],
    all [.symbol "*", .symbol ",", .several (.rule .anyParameter), rest],
    all [.rule .otherParameters]]

def badParameterLists : List (Alternative Rule) :=
  let slash : Item Rule := .oneOf [[.rule .slashed], [.rule .slashedDefault]]
  let anyOnes : Item Rule := .many (.rule .anyParameter)
  [wrong "non-default argument follows default argument"
      [.many (.rule .plainParameter), .rule .defaultsBefore, .rule .plainParameter],
    wrong "Lambda expression parameters cannot be parenthesized"
      [.many (.rule .plainParameter), .symbol "(", .listed .name, .maybe (.symbol ","),
        .symbol ")"],
    wrong "at least one argument must precede /" [.symbol "/", .symbol ","],
    wrong "/ may appear only once" [slash, anyOnes, .symbol "/"],
    wrong "/ must be ahead of *"
      [.maybe slash, anyOnes, .symbol "*", .oneOf [[.symbol ","], [.rule .plainParameter]],
        anyOnes, .symbol "/"],
    wrong "expected comma between / and *"
      [.several (.rule .anyParameter), .symbol "/", .symbol "*"]]

def badStarParameterLists : List (Alternative Rule) :=
  let plainOrComma : Item Rule := .oneOf [[.rule .plainParameter], [.symbol ","]]
  [wrong "named arguments must follow bare *"
      [.symbol "*", .oneOf [[.symbol ":"], [.symbol ",", symbols [":", "**"]]]],
    wrong "var-positional argument cannot have default value" [.symbol "*", .name, .symbol "="],
    wrong "* argument may appear only once"
      [.symbol "*", plainOrComma, .many (.rule .anyParameter), .symbol "*", plainOrComma]]

def badOtherParameterLists : List (Alternative Rule) :=
  let message := "arguments cannot follow var-keyword argument"
  [wrong "var-keyword argument cannot have default value" [.symbol "**", .name, .symbol "="],
    wrong message [.symbol "**", .name, .symbol ",", .name],
    wrong message [.symbol "**", .name, .symbol ",", symbols ["*", "**", "/"]]]

/-! Arguments of calls. In the parts of arguments an expression stands for one without a name,
`=` for one with a name and `**` for several with names. -/

def argumentLists : List (Alternative Rule) :=
  let value : Item Rule :=
    .oneOf [[.rule .starredExpression], [argumentValue, .notAhead (.symbol "=")]]
  [all [.listed value, .maybe (.oneOf [[.symbol ",", .rule .keywordArgs]])],
    all [.rule .keywordArgs]]

def keywordLists : List (Alternative Rule) :=
  let starred : Item Rule := .listed (.rule .keywordOrStarred)
  let unpacked : Item Rule := .listed (.rule .keywordOrUnpacked)
  [all [starred, .symbol ",", unpacked], all [starred], all [unpacked]]

def keywordArgument : Alternative Rule :=
  worded "=" [.name, .symbol "=", .rule .expression]

/-- What is wrong with arguments that others follow. -/
def orderMessage (arguments : Part) : String :=
  let isUnpacked := arguments.leaves.any fun
    | .word word _ => word == "**"
    | _ => false
  if isUnpacked then "positional argument follows keyword argument unpacking"
  else "positional argument follows keyword argument"

/-- A name with an equals sign before a loop. -/
def namedLoop : Alternative Rule :=
  wrong "invalid syntax. Maybe you meant '==' or ':=' instead of '='?"
    [.name, .symbol "=", .rule .expression, .rule .loops]

def badArgumentLists : List (Alternative Rule) :=
  let message := "Generator expression must be parenthesized"
  [wrong "iterable argument unpacking follows keyword argument unpacking"
      [.rule .args, .symbol ",", .symbol "*"],
    wrong message
      [.rule .expression, .rule .loops, .symbol ",",
        .maybe (.oneOf [[.rule .args], [.rule .expression, .rule .loops]])],
    namedLoop,
    { items := [.rule .args, .rule .loops]
      reply := fun found =>
        if (found.part 0).nodes.length ≤ 1 then .nothing else .mistake message },
    wrong message [.rule .args, .symbol ",", .rule .expression, .rule .loops],
    { items := [.rule .args, .symbol ",", .rule .args]
      reply := fun found => .mistake (orderMessage (found.part 0)) }]

def badKeywords : List (Alternative Rule) :=
  let constant := fun (word : String) =>
    wrong ("cannot assign to " ++ word) [.symbol word, .symbol "="]
  [constant "True", constant "False", constant "None", namedLoop,
    wrong "expression cannot contain assignment, perhaps you meant \"==\"?"
      [.notAhead (.oneOf [[.name, .symbol "="]]), .rule .expression, .symbol "="]]

/-! Targets of loops. -/

def targetLists : List (Alternative Rule) :=
  [all [.rule .target, .notAhead (.symbol ",")],
    all [.rule .target, .many (.oneOf [[.symbol ",", .rule .target]]), .maybe (.symbol ",")]]

def atomTargets : List (Alternative Rule) :=
  [all [.name],
    all [.symbol "(", .rule .plainTarget, .symbol ")"],
    all [.symbol "(", .maybe (.rule .tupleTargets), .symbol ")"]]

def tupleTargetLists : List (Alternative Rule) :=
  [all [.rule .target, .several (.oneOf [[.symbol ",", .rule .target]]), .maybe (.symbol ",")],
    all [.rule .target, .symbol ","]]

def shape : Rule → Shape Rule
  | .whole => .choice [first [.rule .expressions, .many .newline, .finish]]
  | .embedded => .choice [first [.rule .starExpressions]]
  | .expressions => row .expression
  | .expression => .choice (mistakes .badExpression :: mistakes .badStatement :: plainExpressions)
  | .faultlessExpression => .choice plainExpressions
  | .badExpression => .choice badExpressions
  | .badStatement => .choice badStatements
  | .yielded => .choice [
      called "yield expression" [.symbol "yield", .symbol "from", .rule .expression],
      called "yield expression" [.symbol "yield", .maybe (.rule .starExpressions)]]
  | .starExpressions => row .starExpression
  | .starExpression => .choice [
      made [.symbol "*", .rule .bitOr] fun found => .starred (found.node 1),
      first [.rule .expression]]
  | .starNamedExpressions => .choice [
      all [.listed (.rule .starNamedExpression), .maybe (.symbol ",")]]
  | .starNamedExpression => .choice [
      made [.symbol "*", .rule .bitOr] fun found => .starred (found.node 1),
      first [.rule .namedExpression]]
  | .assignment => .choice [called "named expression" [.name, .symbol ":=", .rule .expression]]
  | .namedExpression => .choice [
      first [.rule .assignment],
      mistakes .badNamedExpression,
      first [.rule .expression, .notAhead (.symbol ":=")]]
  | .badNamedExpression => .choice badNamedExpressions
  | .disjunction => joined .conjunction "or"
  | .conjunction => joined .inversion "and"
  | .inversion => .choice [
      called "expression" [.symbol "not", .rule .inversion],
      first [.rule .comparison]]
  | .comparison => .choice [
      made [.rule .bitOr, .several (.rule .comparisonTail)] compared,
      first [.rule .bitOr]]
  | .comparisonTail => .choice comparisonTails
  | .bitOr => operation .bitXor ["|"] anyOperation
  | .bitXor => operation .bitAnd ["^"] anyOperation
  | .bitAnd => operation .shift ["&"] anyOperation
  | .shift => operation .sum ["<<", ">>"] anyOperation
  | .sum => operation .term ["+", "-"] .sum
  | .term => operation .factor ["*", "/", "//", "%", "@"] anyOperation
  | .factor => .choice factors
  | .power => .choice [
      called "expression" [.rule .awaited, .symbol "**", .rule .factor],
      first [.rule .awaited]]
  | .awaited => .choice [
      called "await expression" [.symbol "await", .rule .primary],
      first [.rule .primary]]
  | .primary => .growing [first [.rule .atom]] (trailers [])
  | .atom => .choice atoms
  | .group => .choice groups
  | .badGroup => .choice badGroups
  | .tuple => .choice [
      made [.symbol "(",
        .maybe (.oneOf [[.rule .starNamedExpression, .symbol ",",
          .maybe (.rule .starNamedExpressions)]]),
        .symbol ")"] tupleOf]
  | .set => .choice [
      made [.symbol "\x7b", .rule .starNamedExpressions, .symbol "\x7d"] fun found =>
        .set (found.part 1).nodes]
  | .mapping => .choice mappings
  | .pairs => .choice [first [.listed (.rule .pair), .maybe (.symbol ",")]]
  | .pair => .choice pairAlternatives
  | .keyValue => .choice [
      { items := [.rule .expression, .symbol ":", .rule .expression]
        reply := fun found => .part (.row [found.part 0, found.part 2]) }]
  | .badPairs => .choice (first [.listed (.rule .pair), .symbol ",", .rule .badPair] :: badValues)
  | .badPair => .choice (
      wrong "':' expected after dictionary key" [.rule .expression, .notAhead (.symbol ":")] ::
        badValues)
  | .loops => .choice [all [.several (.rule .loop)]]
  | .loop => .choice loopAlternatives
  | .badLoop => .choice badLoops
  | .generator => .choice [
      called "generator expression" [.symbol "(", argumentValue, .rule .loops, .symbol ")"],
      mistakes .badLoopItem]
  | .setLoop => .choice [
      called "set comprehension" [.symbol "\x7b", .rule .namedExpression, .rule .loops,
        .symbol "\x7d"],
      mistakes .badLoopItem]
  | .mappingLoop => .choice [
      called "dict comprehension" [.symbol "\x7b", .rule .keyValue, .rule .loops, .symbol "\x7d"],
      mistakes .badMappingLoop]
  | .badLoopItem => .choice badLoopItems
  | .badMappingLoop => .choice [
      wrong "dict unpacking cannot be used in dict comprehension"
        [.symbol "\x7b", .symbol "**", .rule .bitOr, .rule .loops, .symbol "\x7d"]]
  | .function => .choice [
      called "lambda"
        [.symbol "lambda", .maybe (.rule .parameters), .symbol ":", .rule .expression]]
  | .parameters => .choice [mistakes .badParameters, first [.rule .goodParameters]]
  | .goodParameters => .choice parameterLists
  | .slashed => parameterEnds [.several (.rule .plainParameter), .symbol "/"]
  | .slashedDefault => parameterEnds
      [.many (.rule .plainParameter), .several (.rule .defaultParameter), .symbol "/"]
  | .starParameters => .choice starParameterLists
  | .otherParameters => .choice [
      mistakes .badOtherParameters,
      all [.symbol "**", .rule .plainParameter]]
  | .plainParameter => parameterEnds [.name]
  | .defaultParameter => parameterEnds [.name, .rule .default]
  | .anyParameter => parameterEnds [.name, .maybe (.rule .default)]
  | .default => .choice [all [.symbol "=", .rule .expression], mistakes .badDefault]
  | .badParameters => .choice badParameterLists
  | .defaultsBefore => .choice [
      all [.rule .slashedDefault],
      all [.several (.rule .defaultParameter)]]
  | .badStarParameters => .choice badStarParameterLists
  | .badOtherParameters => .choice badOtherParameterLists
  | .badDefault => .choice [
      wrong "expected default value expression" [.symbol "=", .ahead (symbols [")", ","])]]
  | .arguments => .choice [
      first [.rule .args, .maybe (.symbol ","), .ahead (.symbol ")")],
      mistakes .badArguments]
  | .args => .choice argumentLists
  | .keywordArgs => .choice keywordLists
  | .starredExpression => .choice [
      made [.symbol "*", .rule .expression] fun found => .starred (found.node 1)]
  | .keywordOrStarred => .choice [
      mistakes .badKeyword, keywordArgument, first [.rule .starredExpression]]
  | .keywordOrUnpacked => .choice [
      mistakes .badKeyword, keywordArgument, worded "**" [.symbol "**", .rule .expression]]
  | .badArguments => .choice badArgumentLists
  | .badKeyword => .choice badKeywords
  | .targets => .choice targetLists
  | .target => .choice [
      all [.symbol "*", .oneOf [[.notAhead (.symbol "*"), .rule .target]]],
      first [.rule .plainTarget]]
  | .plainTarget => .choice [
      all [.rule .targetPrimary, .symbol ".", .name, .notAhead (.rule .targetGoesOn)],
      first [.rule .atomTarget]]
  | .atomTarget => .choice atomTargets
  | .tupleTargets => .choice tupleTargetLists
  | .targetPrimary => .growing [first [.rule .atom, .ahead (.rule .targetGoesOn)]]
      (trailers [.ahead (.rule .targetGoesOn)])
  | .targetGoesOn => .choice [first [.symbol "("], first [.symbol "."]]

/-- The rules whose results are kept. -/
def isKept : Rule → Bool
  | .expression | .starExpression | .disjunction | .conjunction | .inversion | .factor
  | .awaited | .arguments | .target | .plainTarget | .badNamedExpression
  | .bitOr | .bitXor | .bitAnd | .shift | .sum | .term | .primary | .targetPrimary => true
  | _ => false

end Rule

def grammar : Peg.Grammar Rule :=
  { shape := Rule.shape, isKept := Rule.isKept }

end Literal
end SandboxLint
