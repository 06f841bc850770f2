import SandboxLint.Outline
import SandboxLint.Proofs.Corpus.Sketch

/-!
Parameter lists as they are written: between parentheses and separated by commas stand
parameter nodes, each with a name, and a `params` array of loose tokens. Every one of them
is read as one parameter, and which calls a method takes follows from how many of them
there are, how many have a default, and whether one is a `params` array.
-/

namespace SandboxLint
namespace Parameter

/-- Whether a token is a keyword, as one of the words of a modifier or as a token of its own. -/
def declares (word : String) (token : Node) : Bool :=
  ((token.kind == "modifier" || token.kind == "parameter_modifier") &&
      (Text.words token.text).contains word) ||
    (!token.named && token.text == word)

/-- Whether a token stands in front of a default or is one, and no keyword. -/
def opensDefault (token : Node) : Bool :=
  (token.kind == "=" || token.kind == "equals_value_clause") &&
    (token.named || !flagWords.contains token.text)

/-- The kinds of the tokens around parameters. -/
def separators : List String := ["(", ")", ","]

/-- A token that can be the type or the name of a bare parameter. -/
structure IsPart (token : Node) : Prop where
  named : token.named = true
  text : token.text ≠ ""
  kind : token.kind ∉ ["attribute_list", "modifier"] ++ separators

/-- A `params` array of loose tokens: attribute lists, the keyword, its type and its name. -/
structure BareArray where
  attributes : List Node
  keyword : Node
  type : Node
  name : Node
  attributes_kind : ∀ list ∈ attributes, list.kind = "attribute_list"
  keyword_kind : keyword.kind ∉ separators
  keyword_anonymous : keyword.named = false
  keyword_text : keyword.text = "params"
  type_isPart : IsPart type
  name_isPart : IsPart name

/-- A parameter node whose field `name` is not empty. -/
structure NamedNode where
  owner : Node
  owner_kind : owner.kind = "parameter"
  owner_name : Node.textOf (owner.child? "name") ≠ ""

/-- A parameter as it is written. -/
inductive Written where
  | node (parameter : NamedNode)
  | bare (array : BareArray)

namespace Written

def tokens : Written → List Node
  | .node parameter => [parameter.owner]
  | .bare array => array.attributes ++ [array.keyword, array.type, array.name]

/-- The tokens that say what a parameter is. -/
def parts : Written → List Node
  | .node parameter => parameter.owner.children
  | .bare array => array.attributes ++ [array.keyword, array.type, array.name]

def name : Written → String
  | .node parameter => Node.textOf (parameter.owner.child? "name")
  | .bare array => array.name.text

def typeText : Written → String
  | .node parameter => Node.textOf (parameter.owner.child? "type")
  | .bare array => array.type.text

/-- A `params` array is a bare one, or a parameter node with a token that says so. -/
def isParams : Written → Bool
  | .node parameter => parameter.owner.children.any (declares "params")
  | .bare _ => true

def hasDefault (written : Written) : Bool :=
  written.parts.any opensDefault

end Written

/-- A parameter that is read as it is written. -/
structure Reads (written : Written) (parameter : Parameter) : Prop where
  node : written.tokens.head? = some parameter.node
  name : parameter.name = written.name
  typeText : parameter.typeText = written.typeText
  isParams : parameter.isParams = written.isParams
  hasDefault : parameter.hasDefault = written.hasDefault

/-- Parameters with a comma between each two. -/
inductive Separated : List Node → List Written → Prop
  | none : Separated [] []
  | last (written : Written) : Separated written.tokens [written]
  | comma (written : Written) {comma : Node} {rest : List Node} {next : Written}
      {others : List Written} (kind : comma.kind = ",")
      (separated : Separated rest (next :: others)) :
      Separated (written.tokens ++ comma :: rest) (written :: next :: others)

theorem tokenFlags_contains_params (token : Node) :
    (tokenFlags token).contains "params" = declares "params" token := by
  have hflag : "params" ∈ flagWords := by decide
  have hself : token.text = "params" → "params" ∈ Text.words token.text := by
    intro htext
    rw [htext]
    decide
  -- What is no keyword is not the word `params` either.
  have hnone : ¬ (!token.named && flagWords.contains token.text) = true →
      (!token.named && token.text == "params") = false := by
    intro hkeyword
    rw [Bool.eq_false_iff]
    intro hparams
    obtain ⟨hnamed, htext⟩ := Bool.and_eq_true_iff.1 hparams
    exact hkeyword (by simpa [hnamed, beq_iff_eq.1 htext] using hflag)
  simp only [tokenFlags, tokenRole, declares]
  split_ifs with hmodifier hkeyword hdefault href
  · rw [Bool.eq_iff_iff]
    simpa [hmodifier, hflag] using fun _ => hself
  · rw [Bool.eq_false_iff.2 hmodifier, (Bool.and_eq_true_iff.1 hkeyword).1,
      Bool.false_and, Bool.false_or, Bool.true_and, List.contains_cons, List.contains_nil,
      Bool.or_false]
    exact BEq.comm
  all_goals rw [Bool.eq_false_iff.2 hmodifier, hnone hkeyword]; rfl

theorem startsDefault_eq (token : Node) : startsDefault token = opensDefault token := by
  have hkind : (token.kind == "modifier" || token.kind == "parameter_modifier") = true →
      (token.kind == "=" || token.kind == "equals_value_clause") = false := by
    intro h
    obtain h | h := Bool.or_eq_true_iff.1 h <;> simp [beq_iff_eq.1 h]
  have hword : (token.named || !flagWords.contains token.text) =
      !(!token.named && flagWords.contains token.text) := by
    simp
  simp only [startsDefault, tokenRole, opensDefault, hword]
  split_ifs with hmodifier hkeyword hdefault href
  · rw [hkind hmodifier]
    rfl
  · rw [hkeyword, Bool.not_true, Bool.and_false]
  · rw [hdefault, Bool.eq_false_iff.2 hkeyword]
    rfl
  all_goals rw [Bool.eq_false_iff.2 hdefault]; rfl

/-- The flags of a parameter make it a `params` array when one of its tokens says so; what else its
type adds to them makes no difference. -/
theorem flags_contains_params (tokens : List Node) {more : List String} (h : "params" ∉ more) :
    (tokens.flatMap tokenFlags ++ more).eraseDups.contains "params" =
      tokens.any (declares "params") := by
  have htokens : (tokens.flatMap tokenFlags).contains "params" =
      tokens.any (declares "params") := by
    induction tokens with
    | nil => rfl
    | cons token rest ih =>
        rw [List.flatMap_cons, List.any_cons, ← ih, ← tokenFlags_contains_params]
        simp
  rw [← htokens]
  simp [List.mem_eraseDups, h]

/-- A parameter node with a name is read as it is written. -/
theorem reads_node (parameter : NamedNode) : ∃ read, ofGroup (Written.node parameter).tokens =
    some read ∧ Reads (.node parameter) read := by
  obtain ⟨owner, hkind, hname⟩ := parameter
  have hgroup : ofGroup [owner] = ofNode owner := by simp [ofGroup, hkind]
  have hname' : (Node.textOf (owner.child? "name") == "") = false := by simpa using hname
  rw [Written.tokens, hgroup]
  simp only [ofNode, hname', Bool.false_eq_true, ite_false, Bool.false_and]
  refine ⟨_, rfl, rfl, rfl, rfl, flags_contains_params _ ?_, ?_⟩
  · cases owner.child? "type" with
    | none => simp
    | some type => by_cases href : type.kind = "ref_type" <;> simp [href]
  · simp only [Written.hasDefault, Written.parts, funext startsDefault_eq]

/-- A bare `params` array is read as it is written. -/
theorem reads_bare (array : BareArray) : ∃ read, ofGroup (Written.bare array).tokens =
    some read ∧ Reads (.bare array) read := by
  obtain ⟨attributes, keyword, type, name, hattributes, -, hanonymous, htext, htype, hname⟩ := array
  have hnamed : ((attributes ++ [keyword, type, name]).filter fun t =>
      t.named && t.kind != "attribute_list" && t.kind != "modifier").reverse = [name, type] := by
    have hnone : (attributes.filter fun t =>
        t.named && t.kind != "attribute_list" && t.kind != "modifier") = [] :=
      List.filter_eq_nil_iff.2 fun list hlist => by simp [hattributes list hlist]
    have hpart : ∀ {token}, IsPart token →
        (token.named && token.kind != "attribute_list" && token.kind != "modifier") = true := by
      intro token htoken
      have hkind := htoken.kind
      simp_all [htoken.named]
    rw [List.filter_append, hnone]
    simp [hanonymous, hpart htype, hpart hname]
  -- The group has more than one token, so it is read token by token.
  obtain ⟨first, hfirst, hgroup⟩ : ∃ first,
      (attributes ++ [keyword, type, name]).head? = some first ∧
        ofGroup (attributes ++ [keyword, type, name]) =
          ofTokens first (attributes ++ [keyword, type, name]) := by
    match attributes with
    | [] | [_] | _ :: _ :: _ => exact ⟨_, rfl, rfl⟩
  have hread : (name.text == "") = false := by simpa using hname.text
  rw [Written.tokens, hgroup, ofTokens, hnamed]
  simp only [List.head?_cons, List.drop_succ_cons, List.drop_zero, Node.textOf, hread,
    Bool.false_and, Bool.false_eq_true, ite_false]
  refine ⟨_, rfl, hfirst, rfl, rfl, ?_, ?_⟩
  · have hparams := flags_contains_params (attributes ++ [keyword, type, name])
      (List.not_mem_nil (a := "params"))
    rw [List.append_nil] at hparams
    refine hparams.trans (List.any_eq_true.2 ⟨keyword, by simp, ?_⟩)
    simp [declares, hanonymous, htext]
  · simp only [Written.hasDefault, Written.parts, funext startsDefault_eq]

/-- Every parameter is read as it is written. -/
theorem reads_written (written : Written) : ∃ read, ofGroup written.tokens = some read ∧
    Reads written read := by
  cases written with
  | node parameter => exact reads_node parameter
  | bare array => exact reads_bare array

/-! Groups between commas. -/

theorem groups_of_paren {token : Node} (h : token.kind = "(" ∨ token.kind = ")")
    (rest : List Node) : groups (token :: rest) = groups rest := by
  rw [groups, if_pos (by simpa using h)]

theorem groups_of_comma {token : Node} (h : token.kind = ",") (rest : List Node) :
    groups (token :: rest) = [] :: groups rest := by
  simp [groups, h]

/-- Tokens that separate nothing belong to the first group of what follows. -/
theorem groups_append {tokens : List Node} (h : ∀ token ∈ tokens, token.kind ∉ separators)
    {rest first : List Node} {others : List (List Node)} (hrest : groups rest = first :: others) :
    groups (tokens ++ rest) = (tokens ++ first) :: others := by
  induction tokens with
  | nil => exact hrest
  | cons token tokens ih =>
      obtain ⟨htoken, htokens⟩ := List.forall_mem_cons.1 h
      simp only [separators, List.mem_cons, List.not_mem_nil, or_false, not_or] at htoken
      rw [List.cons_append, groups]
      simp [htoken, ih htokens]

theorem Written.kind_not_mem_separators (written : Written) :
    ∀ token ∈ written.tokens, token.kind ∉ separators := by
  cases written with
  | node parameter => simp [tokens, parameter.owner_kind, separators]
  | bare array =>
      have hpart : ∀ {token}, IsPart token → token.kind ∉ separators :=
        fun hpart hmem => hpart.kind (List.mem_append_right _ hmem)
      refine List.forall_mem_append.2 ⟨fun list hlist => ?_, ?_⟩
      · rw [array.attributes_kind list hlist]
        decide
      · simpa using ⟨array.keyword_kind, hpart array.type_isPart, hpart array.name_isPart⟩

/-- The groups of separated parameters are the parameters. -/
theorem Separated.filterMap_groups {inner : List Node} {writtens : List Written}
    (h : Separated inner writtens) {close : Node} (hclose : close.kind = ")") :
    (groups (inner ++ [close])).filterMap ofGroup =
      (writtens.map (·.tokens)).filterMap ofGroup := by
  have hend : groups [close] = [[]] := groups_of_paren (.inr hclose) []
  induction h with
  | none => simp [hend, ofGroup]
  | last written =>
      rw [groups_append written.kind_not_mem_separators hend, List.append_nil]
      rfl
  | @comma written comma rest next others kind separated ih =>
      rw [List.append_assoc, List.cons_append,
        groups_append written.kind_not_mem_separators (groups_of_comma kind _), List.append_nil,
        List.map_cons, List.filterMap_cons, List.filterMap_cons, ih]

theorem forall₂_reads (writtens : List Written) :
    List.Forall₂ Reads writtens ((writtens.map (·.tokens)).filterMap ofGroup) := by
  induction writtens with
  | nil => exact .nil
  | cons written rest ih =>
      obtain ⟨read, hread, hreads⟩ := reads_written written
      rw [List.map_cons, List.filterMap_cons_some hread]
      exact .cons hreads ih

/-- What is said of written parameters is said of those that are read. -/
theorem map_of_reads {α : Type} {writtens : List Written} {parameters : List Parameter}
    (h : List.Forall₂ Reads writtens parameters) {f : Written → α} {g : Parameter → α}
    (hsame : ∀ written parameter, Reads written parameter → g parameter = f written) :
    parameters.map g = writtens.map f := by
  induction h with
  | nil => rfl
  | cons hreads _ ih => rw [List.map_cons, List.map_cons, ih, hsame _ _ hreads]

theorem countP_of_reads {writtens : List Written} {parameters : List Parameter}
    (h : List.Forall₂ Reads writtens parameters) {p : Written → Bool} {q : Parameter → Bool}
    (hsame : ∀ written parameter, Reads written parameter → q parameter = p written) :
    parameters.countP q = writtens.countP p := by
  have hmaps := congrArg (List.countP id) (map_of_reads h hsame)
  rwa [List.countP_map, List.countP_map] at hmaps

end Parameter

/-- A parameter list: parameters with commas between them, in parentheses. -/
structure Node.ListsParameters (list : Node) (writtens : List Parameter.Written) : Prop where
  kind : list.kind = "parameter_list"
  children : ∃ opening inner closing, list.children = opening :: inner ++ [closing] ∧
    opening.kind = "(" ∧ closing.kind = ")" ∧ Parameter.Separated inner writtens

theorem Node.ListsParameters.forall₂_reads {member list : Node}
    {writtens : List Parameter.Written} (hlist : member.parameterList = some list)
    (h : list.ListsParameters writtens) :
    List.Forall₂ Parameter.Reads writtens member.parameters := by
  obtain ⟨hkind, opening, inner, closing, hchildren, hopen, hclose, hseparated⟩ := h
  have hparameters : member.parameters =
      (Parameter.groups list.children).filterMap Parameter.ofGroup := by
    simp [Node.parameters, hlist, hkind]
  rw [hparameters, hchildren, List.cons_append, Parameter.groups_of_paren (.inl hopen),
    hseparated.filterMap_groups hclose]
  exact Parameter.forall₂_reads writtens

namespace Outline

/-- A method takes as many arguments as it has parameters without a default, `params` arrays apart,
and no more than it has parameters unless one is such an array. -/
theorem accepts_methodDecl_iff (file : SourceFile) (member : Node) (count : Int) :
    (methodDecl file member).accepts count = true ↔
      (member.parameters.countP fun p => !p.isParams && !p.hasDefault) ≤ count ∧
        (member.parameters.countP (·.isParams) ≠ 0 ∨
          count ≤ member.parameters.countP fun p => !p.isParams) := by
  have hrequired : ((member.parameters.filter (!·.isParams)).filter (!·.hasDefault)).length =
      member.parameters.countP fun p => !p.isParams && !p.hasDefault := by
    rw [List.filter_filter, List.countP_eq_length_filter]
    simp only [Bool.and_comm]
  have htotal : (member.parameters.filter (!·.isParams)).length =
      member.parameters.countP fun p => !p.isParams :=
    List.countP_eq_length_filter.symm
  have hall : member.parameters.length = member.parameters.countP (·.isParams) +
      member.parameters.countP fun p => !p.isParams := by
    simpa using List.length_eq_countP_add_countP (fun p : Parameter => p.isParams)
  simp only [methodDecl, MethodDecl.accepts, countFits, hrequired, htotal, Bool.and_eq_true,
    Bool.or_eq_true, decide_eq_true_eq, bne_iff_ne]
  refine and_congr_right fun _ => or_congr_left ?_
  omega

/-- A parameter list is read parameter by parameter as it is written, and the method takes the
numbers of arguments that follow from it: no fewer than there are parameters without a default, and
no more than there are parameters unless one is a `params` array, which counts for neither. -/
theorem parameters_decide_arity (file : SourceFile) {member list : Node}
    {writtens : List Parameter.Written} (hlist : member.parameterList = some list)
    (hwritten : list.ListsParameters writtens) :
    List.Forall₂ Parameter.Reads writtens member.parameters ∧
    ∀ count : Int, (methodDecl file member).accepts count = true ↔
      (writtens.countP fun w => !w.isParams && !w.hasDefault) ≤ count ∧
        ((∃ written ∈ writtens, written.isParams = true) ∨
          count ≤ writtens.countP fun w => !w.isParams) := by
  have hreads := hwritten.forall₂_reads hlist
  refine ⟨hreads, fun count => ?_⟩
  have hany : (∃ written ∈ writtens, written.isParams = true) ↔
      writtens.countP (·.isParams) ≠ 0 := by
    rw [Ne, List.countP_eq_zero]
    simp
  rw [accepts_methodDecl_iff, hany,
    Parameter.countP_of_reads hreads fun _ _ h => by rw [h.isParams, h.hasDefault],
    Parameter.countP_of_reads hreads fun _ _ h => h.isParams,
    Parameter.countP_of_reads hreads fun _ _ h => by rw [h.isParams]]

section Mix

/-- A method that takes a reference, a number with a default, and a bare array behind an
attribute. -/
def mixMember : Node :=
  .ofTree (Sketch.group "method_declaration" none
    [Sketch.word "identifier" "Mix" "name",
      Sketch.group "parameter_list" "parameters"
        [Sketch.token "(",
          Sketch.group "parameter" none
            [Sketch.word "modifier" "ref" none, Sketch.word "predefined_type" "int" "type",
              Sketch.word "identifier" "sound" "name"],
          Sketch.token ",",
          Sketch.group "parameter" none
            [Sketch.word "predefined_type" "int" "type", Sketch.word "identifier" "rate" "name",
              Sketch.token "=", Sketch.word "integer_literal" "1" none],
          Sketch.token ",", Sketch.group "attribute_list" none [], Sketch.token "params",
          Sketch.word "array_type" "int[]" "type", Sketch.word "identifier" "levels" "name",
          Sketch.token ")"]])

def mixList : Node :=
  (mixMember.child? "parameters").getD default

def mixToken (place : Nat) : Node :=
  (mixList.children[place]?).getD default

def mixWritten : List Parameter.Written :=
  [.node { owner := mixToken 1, owner_kind := rfl, owner_name := by decide },
    .node { owner := mixToken 3, owner_kind := rfl, owner_name := by decide },
    .bare
      { attributes := [mixToken 5], keyword := mixToken 6, type := mixToken 7, name := mixToken 8
        attributes_kind := by simp; rfl
        keyword_kind := by decide
        keyword_anonymous := rfl
        keyword_text := rfl
        type_isPart := ⟨rfl, by decide, by decide⟩
        name_isPart := ⟨rfl, by decide, by decide⟩ }]

theorem listsParameters_mix : mixList.ListsParameters mixWritten where
  kind := rfl
  children := ⟨mixToken 0, _, mixToken 9, rfl, rfl, rfl, .comma _ rfl (.comma _ rfl (.last _))⟩

/-- The mix needs its sound, and takes any number of levels. -/
theorem parameters_decide_arity_mix :
    mixMember.parameterList = some mixList ∧ mixList.ListsParameters mixWritten ∧
      mixMember.parameters.map (fun p => (p.name, p.typeText, p.isParams)) =
        [("sound", "int", false), ("rate", "int", false), ("levels", "int[]", true)] ∧
      (methodDecl (Sketch.file "/Mixer.cs" []) mixMember).accepts 0 = false ∧
      (methodDecl (Sketch.file "/Mixer.cs" []) mixMember).accepts 1 = true ∧
      (methodDecl (Sketch.file "/Mixer.cs" []) mixMember).accepts 9 = true := by
  have hlist : mixMember.parameterList = some mixList := rfl
  obtain ⟨hreads, haccepts⟩ :=
    parameters_decide_arity (Sketch.file "/Mixer.cs" []) hlist listsParameters_mix
  have hnames := Parameter.map_of_reads hreads
    (f := fun w => (w.name, w.typeText, w.isParams))
    (g := fun p => (p.name, p.typeText, p.isParams))
    fun _ _ h => by rw [h.name, h.typeText, h.isParams]
  refine ⟨hlist, listsParameters_mix, hnames.trans (by decide), ?_, (haccepts 1).2 (by decide),
    (haccepts 9).2 (by decide)⟩
  rw [Bool.eq_false_iff]
  exact fun h => absurd ((haccepts 0).1 h).1 (by decide)

end Mix

end Outline
end SandboxLint
