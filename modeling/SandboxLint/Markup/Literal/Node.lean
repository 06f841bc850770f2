/-!
Expressions that literals are written as. An expression is a literal when it is made
of numbers, texts, constants, tuples, sets and mappings only; sets and mappings are
no keys and no members of sets.
-/

namespace SandboxLint
namespace Literal

/-- An expression, as far as it matters whether it is a literal, whether something can be assigned
to it, and what it is called. What is `missing` is the key of a pair that has none. -/
inductive Node where
  | number (imaginary : Bool)
  | constant (label : String)
  | name (text : String)
  | tuple (items : List Node)
  | set (items : List Node)
  | mapping (pairs : List (Node × Node))
  | signed (operand : Node)
  | sum (left right : Node)
  | comparison (isMembership : Bool) (left : Node)
  | starred (value : Node)
  | attributeOf
  | emptySet
  | missing
  | other (label : String)
  deriving Repr, Inhabited

/-- What an expression is called. -/
def Node.label : Node → String
  | .number _ => "literal"
  | .constant label => label
  | .name _ => "name"
  | .tuple _ => "tuple"
  | .set _ => "set display"
  | .mapping _ => "dict literal"
  | .signed _ | .sum _ _ => "expression"
  | .comparison _ _ => "comparison"
  | .starred _ => "starred"
  | .attributeOf => "attribute"
  | .emptySet => "function call"
  | .missing => ""
  | .other label => label

mutual

/-- The part of an expression to which nothing can be assigned, if it has one. -/
def Node.fixedPart? : Node → Option Node
  | .tuple items => fixedPartOf? items
  | .starred value => value.fixedPart?
  -- the target of a loop looks like a membership, of which only the left counts
  | .comparison isMembership left => if isMembership then left.fixedPart? else none
  | .name _ => none
  | .attributeOf => none
  | node => some node

/-- The first such part among items. -/
def fixedPartOf? : List Node → Option Node
  | [] => none
  | item :: rest => item.fixedPart?.orElse fun _ => fixedPartOf? rest

end

/-- Why a text has no value. What is too deep cannot be read, and there are no words for it; what is
too nested can be read but not kept. -/
inductive ValueError where
  | notLiteral
  | missingKey
  | unhashable (kind : String)
  | nullCharacter
  | tooDeep
  | tooNested
  deriving DecidableEq, Repr

def ValueError.message : ValueError → String
  | .notLiteral => "malformed node or string"
  | .missingKey => "malformed node or string: None"
  | .nullCharacter => "source code string cannot contain null bytes"
  | .unhashable kind => "unhashable type: '" ++ kind ++ "'"
  | .tooDeep => ""
  | .tooNested => "maximum recursion depth exceeded during ast construction"

/-- Why a text is no literal: it is no expression, or it has no value. -/
inductive LiteralError where
  | grammar (message : String)
  | value (error : ValueError)
  deriving DecidableEq, Repr

/-- Whether an expression is a number, with a sign or without. -/
def isReal : Node → Bool
  | .number imaginary => !imaginary
  | .signed (.number imaginary) => !imaginary
  | _ => false

mutual

/-- The kind of a literal's value if it cannot be a key or a member of a set. -/
def kindOf : Node → Except ValueError (Option String)
  | .number _ => .ok none
  | .constant _ => .ok none
  | .tuple items => kindOfAll items
  | .set items => do
      kindOfMembers items
      return some "set"
  | .mapping pairs => do
      kindOfPairs pairs
      return some "dict"
  | .signed operand =>
      match operand with
      | .number _ => .ok none
      | _ => .error .notLiteral
  | .sum left right =>
      match right with
      | .number true => if isReal left then .ok none else .error .notLiteral
      | _ => .error .notLiteral
  | .emptySet => .ok (some "set")
  | .missing => .error .missingKey
  | .name _ | .comparison _ _ | .starred _ | .attributeOf | .other _ => .error .notLiteral

def kindOfAll : List Node → Except ValueError (Option String)
  | [] => .ok none
  | item :: rest => do
      let first ← kindOf item
      let others ← kindOfAll rest
      return first.orElse fun _ => others

def kindOfMembers : List Node → Except ValueError Unit
  | [] => .ok ()
  | item :: rest => do
      match ← kindOf item with
      | some kind => throw (.unhashable kind)
      | none => kindOfMembers rest

def kindOfPairs : List (Node × Node) → Except ValueError Unit
  | [] => .ok ()
  | pair :: rest => do
      kindOfPair pair
      kindOfPairs rest

def kindOfPair : Node × Node → Except ValueError Unit
  | (key, value) => do
      let kind ← kindOf key
      let _ ← kindOf value
      match kind with
      | some kind => throw (.unhashable kind)
      | none => return ()

end

end Literal
end SandboxLint
