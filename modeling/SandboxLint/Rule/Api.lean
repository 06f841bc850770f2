import SandboxLint.Rule.Basic
import SandboxLint.Text.Lowercase
import SandboxLint.Text.Word

/-!
Rules on interfaces to the sandbox: network-callable methods, members and calls that
are not exposed, and events that are sent to methods by name.
-/

namespace SandboxLint.Rule

/-- Modifiers that a network-callable method may not have. -/
def networkForbidden : List String := ["static", "abstract", "virtual", "override", "sealed"]

/-- What is wrong with one parameter of a network-callable method. -/
def networkParameter (callable : String) (p : Parameter) : List Finding :=
  (if p.isByReference then
    [(p.node, callable ++ " methods cannot have ref/out parameters")] else []) ++
  (if p.isParams then
    [(p.node, callable ++ " methods cannot have params parameters")] else []) ++
  (if p.hasDefault then
    [(p.node, callable ++ " methods cannot have parameters with default values")] else [])

/-- What is wrong with a network-callable method: its return type, its parameters, its
modifiers, in this order. -/
def networkMethod (analysis : AnalysisSettings) (method : Node) : List Finding :=
  let callable := analysis.networkCallableAttribute
  let limit := analysis.maxNetworkCallableParameters
  let params := method.parameters
  let returned :=
    match Outline.returnTypeNode method with
    | some type =>
        if type.text != "void" then [(type, callable ++ " methods must return void")] else []
    | none => []
  let tooMany :=
    if limit < params.length then
      [(method.parameterList.getD method,
        callable ++ " methods cannot have more than " ++ toString limit ++ " parameters")]
    else []
  let modified :=
    if method.modifiers.any networkForbidden.contains then
      [(method, callable ++ " methods cannot be static, abstract, virtual, override, or sealed")]
    else []
  returned ++ tooMany ++ params.flatMap (networkParameter callable) ++ modified

def networkCallable (input : RuleInput) : List Finding :=
  ((input.find ["method_declaration"]).filter
    (·.hasAttribute input.analysis.networkCallableAttribute)).flatMap (networkMethod input.analysis)

/-- Members of text components that may not be exposed. -/
def textMembers : List String :=
  ["fontSize", "fontSizeMin", "fontSizeMax", "fontStyle", "fontWeight", "enableAutoSizing",
    "fontSharedMaterial", "fontSharedMaterials", "fontMaterial", "fontMaterials", "maskable",
    "isVolumetricText", "margin", "textBounds", "preferredWidth", "preferredHeight",
    "flexibleWidth", "flexibleHeight", "minWidth", "minHeight", "maxWidth", "maxHeight",
    "layoutPriority", "isUsingLegacyAnimationComponent", "onCullStateChanged", "maskOffset",
    "renderMode", "geometrySortingOrder", "vertexBufferAutoSizeReduction",
    "firstVisibleCharacter", "maxVisibleCharacters", "maxVisibleWords", "maxVisibleLines",
    "useMaxVisibleDescender", "pageToDisplay", "linkedTextComponent", "isTextOverflowing",
    "firstOverflowCharacterIndex", "isTextTruncated", "parseCtrlCharacters", "isOrthographic",
    "enableCulling", "ignoreVisibility", "horizontalMapping", "verticalMapping",
    "mappingUvLineOffset", "enableWordWrapping", "wordWrapingRatios", "overflowMode", "textInfo",
    "havePropertiesChanged", "isUsingBold", "spriteAnimator", "layoutElement",
    "ignoreRectMaskCulling", "isOverlay"]

/-- Names by which receivers that are text components are told, in any case. -/
def textReceivers : List String :=
  ["textmeshpro", "textmeshprougui", "tmp_text", "tmp_inputfield", "tmptext", "tmppro"]

/-- A character without its case; the variants of `i` and `s` that have no other case of their
own count as these letters. -/
def withoutCase (c : Char) : Char :=
  if c == '\u0130' || c == '\u0131' then 'i'
  else if c == '\u017F' then 's'
  else Text.lowerChar c

/-- Whether a receiver's text names a text component. -/
def namesTextReceiver (receiver : String) : Bool :=
  textReceivers.any fun word =>
    Text.occursBoundedFrom (fun s c => s == withoutCase c) word.toList none receiver.toList

def textComponentApi (input : RuleInput) : List Finding :=
  (input.find ["member_access_expression"]).filterMap fun node =>
    let name := Node.textOf (node.child? "name")
    let receiver := Node.textOf (node.child? "expression")
    if textMembers.contains name && namesTextReceiver receiver then
      some (node,
        "Property/Method may not be exposed to Udon: '" ++ receiver ++ "." ++ name ++
          "' (TextMeshPro)")
    else none

/-- Namespaces whose calls are not exposed, with what is said of them. -/
def bannedNamespaces : List (String × String) :=
  [("System.Reflection", "Reflection APIs are not exposed to Udon"),
    ("System.Threading", "Threading APIs are not exposed to Udon"),
    ("System.IO.File", "File I/O APIs are not exposed to Udon"),
    ("System.Net", "Networking APIs are not exposed to Udon")]

/-- Calls that are not exposed, with what is said of them. -/
def bannedCalls : List (String × String) :=
  [("Application.OpenURL", "Application.OpenURL is not exposed to Udon"),
    ("Application.Quit", "Application.Quit is not exposed to Udon")]

/-- The first of several names in a call's text. -/
def firstBanned (banned : List (String × String)) (call : Node) : Option Finding :=
  (banned.find? fun (name, _) => Text.occursBounded name call.text).map fun (_, message) =>
    (call, message)

def unexposedApis (input : RuleInput) : List Finding :=
  (input.find ["invocation_expression"]).flatMap fun call =>
    (firstBanned bannedNamespaces call).toList ++ (firstBanned bannedCalls call).toList

/-- The routines that send events, with the number of the argument that names the target. -/
def eventRoutines : List (String × Nat) :=
  [("SendCustomEvent", 0), ("SendCustomEventDelayedSeconds", 0),
    ("SendCustomEventDelayedFrames", 0), ("SendCustomNetworkEvent", 1)]

def stringLiterals : List String :=
  ["string_literal", "verbatim_string_literal", "raw_string_literal"]

/-- The routine that a call on the current object names. -/
def ownRoutine (call : Node) : Option String :=
  (call.child? "function").bind fun function =>
    if function.kind == "identifier" then some function.text
    else if function.kind == "member_access_expression" then
      match function.child? "expression" with
      | some receiver =>
          if Kind.thisNodes.contains receiver.kind then
            some (Node.textOf (function.child? "name"))
          else none
      | none => none
    else none

/-- The routine and the literal of an event sent on the current object. -/
def eventTarget (call : Node) : Option (String × Node) := do
  let routine ← ownRoutine call
  let index ← List.lookup routine eventRoutines
  let literal ← (call.arguments[index]?).bind id
  if stringLiterals.contains literal.kind then some (routine, literal) else none

/-- The value of a string literal: what stands between its quotes. -/
def literalValue (text : String) : String :=
  match text.toList with
  | '@' :: '"' :: rest => String.ofList rest.dropLast
  | cs => String.ofList (((cs.dropWhile (· == '"')).reverse.dropWhile (· == '"')).reverse)

/-- Whether the class around a call has a method of a name, by itself or through its bases. -/
def declaresTarget (input : RuleInput) (type call : Node) (target : String) : Bool :=
  (type.typeMembers.any fun m => m.kind == "method_declaration" && m.declaredName == target) ||
    input.corpus.any fun corpus =>
      ((input.modelIn corpus).enclosingType call).any fun decl =>
        (corpus.space.bases.findMethods decl target).isSome

def eventTargets (input : RuleInput) : List Finding :=
  (input.find ["invocation_expression"]).filterMap fun call => do
    let (routine, literal) ← eventTarget call
    let type ← call.enclosing ["class_declaration"]
    let target := literalValue literal.text
    if input.entryTypes.any type.sameAs && !declaresTarget input type call target then
      some (literal,
        routine ++ " target method '" ++ target ++ "' does not exist in '" ++
          type.declaredName ++ "'")
    else none

end SandboxLint.Rule
