/-!
Cutting lists of characters at a separator: before its first occurrence, around
its last one, after the last `::`, and the inverse of joining parts, for separators of
one character and of several.
-/

namespace SandboxLint.Text

/-- The part before the first `c`, all of the list when there is none. -/
def beforeFirst (c : Char) (cs : List Char) : List Char :=
  cs.takeWhile (· != c)

/-- The part after the first `c`, empty when there is none. -/
def afterFirst (c : Char) (cs : List Char) : List Char :=
  (cs.dropWhile (· != c)).drop 1

/-- The part after the last `c`, all of the list when there is none. -/
def afterLast (c : Char) (cs : List Char) : List Char :=
  (cs.reverse.takeWhile (· != c)).reverse

/-- The part before the last `c`, empty when there is none. -/
def beforeLast (c : Char) (cs : List Char) : List Char :=
  ((cs.reverse.dropWhile (· != c)).drop 1).reverse

/-- The part after the last `::`, pairs of colons being read from the left;
`part` is what stands since the pair before. -/
def afterScopeFrom (part : List Char) : List Char → List Char
  | ':' :: ':' :: rest => afterScopeFrom [] rest
  | c :: rest => afterScopeFrom (part ++ [c]) rest
  | [] => part

/-- The part after the last `::`, all of the list when there is none. -/
def afterScope (cs : List Char) : List Char :=
  afterScopeFrom [] cs

/-- The list without `ending` when it ends in it, else the list itself. -/
def dropEnding (ending cs : List Char) : List Char :=
  if ending.isSuffixOf cs then cs.take (cs.length - ending.length) else cs

/-- The parts of a list between the occurrences of `c`, of which there is always one more
than of `c`. -/
def splitAt (c : Char) : List Char → List (List Char)
  | [] => [[]]
  | d :: rest =>
      if d = c then [] :: splitAt c rest
      else
        match splitAt c rest with
        | part :: parts => (d :: part) :: parts
        | [] => [[d]]

/-- What stands before and after the first occurrence of `separator`, if there is one. -/
def cutAt (separator : List Char) : List Char → Option (List Char × List Char)
  | [] => none
  | c :: rest =>
      if separator.isPrefixOf (c :: rest) then some ([], (c :: rest).drop separator.length)
      else (cutAt separator rest).map fun (before, after) => (c :: before, after)

/-- The parts of a list between the first `cuts` occurrences of `separator`, read from the
left. -/
def splitBy (separator : List Char) : Nat → List Char → List (List Char)
  | 0, cs => [cs]
  | cuts + 1, cs =>
      match cutAt separator cs with
      | some (before, after) => before :: splitBy separator cuts after
      | none => [cs]

/-- Whether `sought` occurs in the list as a run of neighbours. -/
def occursIn (sought : List Char) : List Char → Bool
  | [] => sought.isEmpty
  | c :: rest => sought.isPrefixOf (c :: rest) || occursIn sought rest

def startsWith (text start : String) : Bool :=
  start.toList.isPrefixOf text.toList

def endsWith (text ending : String) : Bool :=
  ending.toList.isSuffixOf text.toList

/-- The text without its last `count` characters. -/
def dropRight (text : String) (count : Nat) : String :=
  String.ofList (text.toList.take (text.toList.length - count))

end SandboxLint.Text
