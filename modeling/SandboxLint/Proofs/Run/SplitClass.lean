import Mathlib.Algebra.BigOperators.Group.List.Basic
import Mathlib.Algebra.Order.BigOperators.Group.List
import Mathlib.Data.Finset.Card
import SandboxLint.Proofs.Run.Findings

/-!
Classes in parts. The rules on properties and on overloads go through one declaration after
the other and forget what they saw in between. So where an entry class stands in several
parts, a property counts as unbacked though the field of another part backs it, and of
methods of one name in different parts none counts as an overload. How far the numbers are
off is told exactly, and they agree exactly when no property is backed from another part and
no two parts have methods of one name.
-/

namespace SandboxLint

namespace Rule

/-- What the rules on properties and on overloads read of a member. -/
structure MemberView where
  kind : String
  name : String
  attributes : List (String × String)
  deriving DecidableEq

/-- A class declaration as these rules read it, member by member. -/
abbrev ClassView := List MemberView

namespace ClassView

variable (callback : String) (view : ClassView)

/-- The argument texts of the attributes of a name on the fields. -/
def callbackTexts : List String :=
  (view.filter (·.kind == "field_declaration")).flatMap fun member =>
    (member.attributes.filter (·.1 == TypeName.ofAttribute callback)).map (·.2)

/-- Whether a field backs the property of a name. -/
def backs (name : String) : Bool :=
  (view.callbackTexts callback).any (Text.occursBounded name)

def propertyNames : List String :=
  (view.filter (·.kind == "property_declaration")).map (·.name)

def methodNames : List String :=
  (view.filter (·.kind == "method_declaration")).map (·.name)

/-- How many properties no field backs. -/
def unbacked : Nat :=
  view.propertyNames.countP (!view.backs callback ·)

def nameCount : Nat :=
  view.methodNames.toFinset.card

/-- How many methods have a name that an earlier one has. -/
def overloads : Nat :=
  view.methodNames.length - view.nameCount

/-- How many properties of a part are backed in a class, but not in the part itself. -/
def cutOff (whole part : ClassView) : Nat :=
  part.propertyNames.countP fun name => whole.backs callback name && !part.backs callback name

theorem nameCount_le : view.nameCount ≤ view.methodNames.length :=
  List.toFinset_card_le _

theorem overloads_add_nameCount : view.overloads + view.nameCount = view.methodNames.length :=
  Nat.sub_add_cancel view.nameCount_le

end ClassView

section Views

def classView (type : Node) : ClassView :=
  type.typeMembers.map fun member =>
    { kind := member.kind, name := member.declaredName
      attributes := member.attributes.map fun a => (a.name, a.arguments) }

theorem callbackTexts_classView (callback : String) (type : Node) :
    (classView type).callbackTexts callback = callbackTargets type callback := by
  simp [ClassView.callbackTexts, classView, callbackTargets, List.filter_map, List.flatMap_map,
    Function.comp_def]

theorem propertyNames_classView (type : Node) : (classView type).propertyNames =
    (type.typeMembers.filter (·.kind == "property_declaration")).map (·.declaredName) := by
  simp [ClassView.propertyNames, classView, List.filter_map, Function.comp_def]

theorem methodNames_classView (type : Node) : (classView type).methodNames =
    (type.typeMembers.filter (·.kind == "method_declaration")).map (·.declaredName) := by
  simp [ClassView.methodNames, classView, List.filter_map, Function.comp_def]

theorem length_repeatedMethods (seen : List String) (methods : List Node) :
    (repeatedMethods seen methods).length +
      ((methods.map (·.declaredName)).toFinset \ seen.toFinset).card = methods.length := by
  -- A method is reported if its name was seen, and else it brings a new name.
  induction methods generalizing seen with
  | nil => simp [repeatedMethods]
  | cons method rest ih =>
      have hrest := ih (method.declaredName :: seen)
      rw [List.toFinset_cons] at hrest
      rw [repeatedMethods, List.map_cons, List.toFinset_cons, List.length_cons]
      by_cases hseen : method.declaredName ∈ seen
      · have hmem : method.declaredName ∈ seen.toFinset := List.mem_toFinset.2 hseen
        rw [Finset.insert_eq_of_mem hmem] at hrest
        rw [if_pos (List.contains_iff_mem.2 hseen), Finset.insert_sdiff_of_mem _ hmem,
          List.length_cons]
        omega
      · have hnew : method.declaredName ∉ seen.toFinset := mt List.mem_toFinset.1 hseen
        have hcard := Finset.card_erase_add_one (Finset.mem_insert_self method.declaredName
          ((rest.map (·.declaredName)).toFinset \ seen.toFinset))
        rw [Finset.erase_insert_eq_erase] at hcard
        rw [Finset.sdiff_insert] at hrest
        rw [if_neg (mt List.contains_iff_mem.1 hseen), Finset.insert_sdiff_of_notMem _ hnew]
        omega

/-- The rule on overloads reports all methods of a declaration but one of each name. -/
theorem length_methodOverloads (input : RuleInput) : (methodOverloads input).length =
    (input.entryTypes.map fun type => (classView type).overloads).sum := by
  rw [methodOverloads, List.length_flatMap]
  refine congrArg List.sum (List.map_congr_left fun type _ => ?_)
  have hlength := length_repeatedMethods []
    (type.typeMembers.filter (·.kind == "method_declaration"))
  rw [← methodNames_classView, List.toFinset_nil, Finset.sdiff_empty] at hlength
  have hmethods := congrArg List.length (methodNames_classView type)
  rw [List.length_map] at hmethods
  rw [ClassView.overloads, hmethods, ClassView.nameCount]
  omega

/-- The rule on properties reports those of a declaration that no field of the declaration backs. -/
theorem length_properties (input : RuleInput) : (properties input).length =
    (input.entryTypes.map fun type =>
      (classView type).unbacked input.analysis.fieldChangeCallbackAttribute).sum := by
  rw [properties, List.length_flatMap]
  refine congrArg List.sum (List.map_congr_left fun type _ => ?_)
  rw [ClassView.unbacked, propertyNames_classView, List.countP_map, List.length_map,
    List.countP_filter, ← List.countP_eq_length_filter]
  refine List.countP_congr fun member _ => ?_
  rw [Function.comp_apply, ClassView.backs, callbackTexts_classView, Bool.and_comm]

end Views

namespace ClassView

variable {callback : String} {whole part : ClassView} {parts : List ClassView}

theorem backs_of_subset (h : part ⊆ whole) {name : String}
    (hbacks : part.backs callback name = true) : whole.backs callback name = true := by
  obtain ⟨text, htext, hoccurs⟩ := List.any_eq_true.1 hbacks
  obtain ⟨member, hmember, hattribute⟩ := List.mem_flatMap.1 htext
  obtain ⟨hpart, hfield⟩ := List.mem_filter.1 hmember
  refine List.any_eq_true.2 ⟨text, List.mem_flatMap.2 ⟨member, ?_, hattribute⟩, hoccurs⟩
  exact List.mem_filter.2 ⟨h hpart, hfield⟩

theorem unbacked_eq (h : part ⊆ whole) : part.unbacked callback =
    part.propertyNames.countP (!whole.backs callback ·) + cutOff callback whole part := by
  rw [unbacked, cutOff, List.countP_eq_countP_filter_add _ _ (!whole.backs callback ·),
    List.countP_filter, List.countP_filter]
  -- What no field of the class backs, no field of the part does.
  congr 1
  · refine List.countP_congr fun name _ => ?_
    have hmore : part.backs callback name = true → whole.backs callback name = true :=
      backs_of_subset h
    cases hpart : part.backs callback name <;> simp_all
  · refine List.countP_congr fun name _ => ?_
    simp [and_comm]

theorem propertyNames_flatten (parts : List ClassView) :
    propertyNames parts.flatten = parts.flatMap propertyNames := by
  rw [propertyNames, List.filter_flatten, List.map_flatten, List.map_map]
  rfl

theorem methodNames_flatten (parts : List ClassView) :
    methodNames parts.flatten = parts.flatMap methodNames := by
  rw [methodNames, List.filter_flatten, List.map_flatten, List.map_map]
  rfl

theorem propertyNames_perm {a b : ClassView} (h : a.Perm b) :
    a.propertyNames.Perm b.propertyNames :=
  (h.filter _).map _

theorem methodNames_perm {a b : ClassView} (h : a.Perm b) : a.methodNames.Perm b.methodNames :=
  (h.filter _).map _

theorem sum_unbacked (h : parts.flatten.Perm whole) : (parts.map (unbacked callback)).sum =
    whole.unbacked callback + (parts.map (cutOff callback whole)).sum := by
  have hparts : ∀ part ∈ parts, part.unbacked callback =
      part.propertyNames.countP (!whole.backs callback ·) + cutOff callback whole part :=
    fun part hpart => unbacked_eq fun member hmember =>
      h.subset (List.mem_flatten_of_mem hpart hmember)
  rw [List.map_congr_left hparts, List.sum_map_add, unbacked,
    ← (propertyNames_perm h).countP_eq, propertyNames_flatten, List.countP_flatMap]
  rfl

theorem sum_overloads (h : parts.flatten.Perm whole) :
    (parts.map overloads).sum + (parts.map nameCount).sum = whole.overloads + whole.nameCount := by
  rw [← List.sum_map_add, overloads_add_nameCount, ← (methodNames_perm h).length_eq,
    methodNames_flatten, List.length_flatMap]
  simp only [overloads_add_nameCount]

/-- The names of a class are at most those of its parts, and as many exactly when no two parts have
one in common. -/
theorem sum_nameCount (parts : List ClassView) :
    nameCount parts.flatten ≤ (parts.map nameCount).sum ∧
      ((parts.map nameCount).sum = nameCount parts.flatten ↔
        parts.Pairwise fun a b => a.methodNames.Disjoint b.methodNames) := by
  induction parts with
  | nil => simp [nameCount, methodNames]
  | cons part rest ih =>
      obtain ⟨hle, hiff⟩ := ih
      have hunion := Finset.card_union_add_card_inter part.methodNames.toFinset
        (methodNames rest.flatten).toFinset
      have hcount : nameCount (part :: rest).flatten =
          (part.methodNames.toFinset ∪ (methodNames rest.flatten).toFinset).card := by
        rw [nameCount, methodNames_flatten, List.flatMap_cons, List.toFinset_append,
          methodNames_flatten]
      have hdisjoint : (part.methodNames.toFinset ∩ (methodNames rest.flatten).toFinset).card = 0 ↔
          ∀ other ∈ rest, part.methodNames.Disjoint other.methodNames := by
        rw [Finset.card_eq_zero, ← Finset.disjoint_iff_inter_eq_empty,
          List.disjoint_toFinset_iff_disjoint, methodNames_flatten]
        constructor
        · intro hnone other hother name hname hin
          exact hnone hname (List.mem_flatMap.2 ⟨other, hother, hin⟩)
        · intro hnone name hname hin
          obtain ⟨other, hother, hin⟩ := List.mem_flatMap.1 hin
          exact hnone other hother hname hin
      rw [hcount, List.map_cons, List.sum_cons, List.pairwise_cons, ← hiff, ← hdisjoint]
      -- The names shared with the rest are what the sum counts twice.
      simp only [nameCount] at *
      omega

theorem sum_cutOff_eq_zero_iff : (parts.map (cutOff callback whole)).sum = 0 ↔
    ∀ part ∈ parts, ∀ name ∈ part.propertyNames,
      whole.backs callback name = true → part.backs callback name = true := by
  simp only [List.sum_eq_zero_iff, List.forall_mem_map, cutOff, List.countP_eq_zero,
    Bool.and_eq_true, Bool.not_eq_true', not_and, Bool.not_eq_false]

end ClassView
end Rule

namespace Corpus

/-- The declarations of entry classes in the entry files of a corpus, as the rules on properties and
on overloads read them. -/
def entryClasses (corpus : Corpus) : List Rule.ClassView :=
  (corpus.space.files.filter fun unit => (corpus.space.classify unit).isEntryPoint).flatMap
    fun unit => (corpus.space.entryNodes unit).map Rule.classView

end Corpus

def LintResult.reported (result : LintResult) (code : Int) : Nat :=
  result.diagnostics.countP (·.code == code)

theorem SymbolSpace.entryFiles_eq (space : SymbolSpace) : space.entryFiles =
    (space.files.filter fun unit => (space.classify unit).isEntryPoint).map (·.path) := by
  rw [entryFiles, classifications, List.filter_map, List.map_map]
  rfl

namespace Run

open Rule

variable {analysis : AnalysisSettings} {units : List OutlinedFile} {corpus : Corpus}

/-- A structural rule that goes through the entry classes one after the other reports the sum of
what it finds in each. -/
theorem reported_of_classes (hmade : Corpus.MadeOf analysis units corpus) {code : Int}
    {rule : Rule} (hrule : Registry.catalogRules.filter (·.code == code) = [rule])
    (hfamily : rule.family = .structural) (hcode : code ≠ 0)
    (henabled : rule.code ∉ corpus.space.analysis.disabledRules) (measure : ClassView → Nat)
    (hfinds : ∀ unit, ∃ found, rule.evaluate (.ofCorpus corpus unit none) = .ok found ∧
      found.length = ((corpus.space.entryNodes unit).map fun type => measure (classView type)).sum)
    (skipped : List String) :
    (resultOf .catalog corpus skipped).reported code =
      (corpus.entryClasses.map measure).sum := by
  have hfindings : ∀ unit ∈ corpus.space.files,
      (findingsAt corpus none unit.path rule).length =
        (((corpus.space.entryNodes unit).map classView).map measure).sum := by
    intro unit hunit
    obtain ⟨found, hfound, hlength⟩ := hfinds unit
    rw [findingsAt, Corpus.file?_of_mem hmade hunit, List.map_map]
    simp only [Rule.run, hfound, Functor.map, Except.map, Except.toOption, Option.getD_some,
      List.length_map, hlength]
    rfl
  rw [LintResult.reported, countP_code_of_structural hrule hfamily hcode henabled,
    SymbolSpace.entryFiles_eq, List.map_map, Corpus.entryClasses, List.map_flatMap,
    List.flatMap_def, List.sum_flatten, List.map_map]
  refine congrArg List.sum (List.map_congr_left fun unit hunit => ?_)
  exact hfindings unit (List.mem_filter.1 hunit).1

theorem reported_properties (hmade : Corpus.MadeOf analysis units corpus)
    (henabled : 15 ∉ corpus.space.analysis.disabledRules) (skipped : List String) :
    (resultOf .catalog corpus skipped).reported 15 = (corpus.entryClasses.map
      (ClassView.unbacked corpus.space.analysis.fieldChangeCallbackAttribute)).sum :=
  reported_of_classes hmade rfl rfl (by decide) henabled _
    (fun unit => ⟨_, rfl, length_properties (.ofCorpus corpus unit none)⟩) skipped

theorem reported_overloads (hmade : Corpus.MadeOf analysis units corpus)
    (henabled : 16 ∉ corpus.space.analysis.disabledRules) (skipped : List String) :
    (resultOf .catalog corpus skipped).reported 16 =
      (corpus.entryClasses.map ClassView.overloads).sum :=
  reported_of_classes hmade rfl rfl (by decide) henabled _
    (fun unit => ⟨_, rfl, length_methodOverloads (.ofCorpus corpus unit none)⟩) skipped

/-- The rules on properties and on overloads report the sums of what they find in the entry
classes. -/
theorem exists_reported {files : List Loaded} {result : LintResult}
    (hrun : check analysis .catalog files = .ok result) (hproperty : 15 ∉ analysis.disabledRules)
    (hoverload : 16 ∉ analysis.disabledRules) :
    ∃ corpus, Corpus.MadeOf analysis (Run.units analysis files) corpus ∧
      result.reported 15 = (corpus.entryClasses.map
        (ClassView.unbacked analysis.fieldChangeCallbackAttribute)).sum ∧
      result.reported 16 = (corpus.entryClasses.map ClassView.overloads).sum := by
  obtain ⟨-, corpus, faults, hcorpus, rfl⟩ := check_eq_ok_iff.1 hrun
  have hmade : Corpus.MadeOf analysis (Run.units analysis files) corpus := .inr ⟨_, hcorpus⟩
  have hregistry : effectiveRegistry .catalog = .catalog := rfl
  have hanalysis := (SymbolSpace.built_of_build hmade.indexed.1).analysis_eq
  refine ⟨corpus, hmade, ?_, ?_⟩
  · rw [hregistry, reported_properties hmade (hanalysis ▸ hproperty), hanalysis]
  · rw [hregistry, reported_overloads hmade (hanalysis ▸ hoverload)]

theorem sum_entryClasses {a b : List ClassView} {whole : ClassView} {parts others : List ClassView}
    (hwhole : a.Perm (whole :: others)) (hparts : b.Perm (parts ++ others))
    (measure : ClassView → Nat) :
    (b.map measure).sum + measure whole = (a.map measure).sum + (parts.map measure).sum := by
  have ha := (hwhole.map measure).sum_eq
  have hb := (hparts.map measure).sum_eq
  rw [List.map_cons, List.sum_cons] at ha
  rw [List.map_append, List.sum_append] at hb
  omega

/-- What splitting a class does to the rules on its members. Let two runs with both rules enabled
have the same entry classes, but that the members of a class of the one stand in several parts in
the other, in whatever files and order. Then the parts have more unbacked properties by those that
are backed from another part, and fewer overloads by the names that several parts have. So the
numbers stay as they are exactly when each part backs all its properties that the class backs, and
when no two parts have methods of one name. -/
theorem split_class_counts {files files' : List Loaded} {joined split : LintResult}
    (hjoined : check analysis .catalog files = .ok joined)
    (hsplit : check analysis .catalog files' = .ok split)
    (hproperty : 15 ∉ analysis.disabledRules) (hoverload : 16 ∉ analysis.disabledRules) :
    ∃ corpus corpus', Corpus.MadeOf analysis (Run.units analysis files) corpus ∧
      Corpus.MadeOf analysis (Run.units analysis files') corpus' ∧
      ∀ (whole : ClassView) (parts others : List ClassView),
        corpus.entryClasses.Perm (whole :: others) →
        corpus'.entryClasses.Perm (parts ++ others) → parts.flatten.Perm whole →
        let callback := analysis.fieldChangeCallbackAttribute
        split.reported 15 =
          joined.reported 15 + (parts.map (ClassView.cutOff callback whole)).sum ∧
        split.reported 16 + (parts.map ClassView.nameCount).sum =
          joined.reported 16 + whole.nameCount ∧
        (split.reported 15 = joined.reported 15 ↔ ∀ part ∈ parts, ∀ name ∈ part.propertyNames,
          whole.backs callback name = true → part.backs callback name = true) ∧
        (split.reported 16 = joined.reported 16 ↔
          parts.Pairwise fun a b => a.methodNames.Disjoint b.methodNames) := by
  obtain ⟨corpus, hmade, hjoined15, hjoined16⟩ := exists_reported hjoined hproperty hoverload
  obtain ⟨corpus', hmade', hsplit15, hsplit16⟩ := exists_reported hsplit hproperty hoverload
  refine ⟨corpus, corpus', hmade, hmade', fun whole parts others hwhole hparts hmembers => ?_⟩
  intro callback
  have hproperties := sum_entryClasses hwhole hparts (ClassView.unbacked callback)
  rw [← hjoined15, ← hsplit15, ClassView.sum_unbacked hmembers] at hproperties
  have hoverloads := sum_entryClasses hwhole hparts ClassView.overloads
  rw [← hjoined16, ← hsplit16] at hoverloads
  have hsum := ClassView.sum_overloads hmembers
  have hnames : ClassView.nameCount parts.flatten = whole.nameCount := by
    rw [ClassView.nameCount, List.toFinset_eq_of_perm _ _ (ClassView.methodNames_perm hmembers)]
    rfl
  obtain ⟨-, hdisjoint⟩ := ClassView.sum_nameCount parts
  -- The rest is arithmetic with the four sums.
  rw [← ClassView.sum_cutOff_eq_zero_iff, ← hdisjoint, hnames]
  omega

section Radio

/-- The volume of a radio, in a field that backs a property. -/
def volumeField : Tree :=
  Sketch.group "field_declaration" none
    [Sketch.group "attribute_list" none
      [Sketch.group "attribute" none
        [Sketch.word "identifier" "FieldChangeCallback" "name",
          Sketch.word "attribute_argument_list" "(nameof(Volume))" none]],
      Sketch.group "variable_declaration" none
        [Sketch.word "identifier" "float" "type",
          Sketch.group "variable_declarator" none [Sketch.word "identifier" "volume" "name"]]]

def volumeProperty : Tree :=
  Sketch.group "property_declaration" none [Sketch.word "identifier" "Volume" "name"]

def playMethod : Tree :=
  Sketch.methodDecl [] "Play" []

def radio : List SourceFile :=
  [Sketch.file "Radio.cs"
    [Sketch.usingOf "UdonSharp",
      Sketch.classDecl [] "Radio" ["UdonSharpBehaviour"]
        [volumeField, playMethod, volumeProperty, playMethod]]]

/-- The radio in two files. -/
def radioParts : List SourceFile :=
  [Sketch.file "Radio.cs"
      [Sketch.usingOf "UdonSharp",
        Sketch.classDecl ["partial"] "Radio" ["UdonSharpBehaviour"] [volumeField, playMethod]],
    Sketch.file "RadioKnobs.cs"
      [Sketch.usingOf "UdonSharp",
        Sketch.classDecl ["partial"] "Radio" [] [volumeProperty, playMethod]]]

def volumeFieldView : MemberView :=
  { kind := "field_declaration", name := ""
    attributes := [("FieldChangeCallback", "(nameof(Volume))")] }

def volumePropertyView : MemberView :=
  { kind := "property_declaration", name := "Volume", attributes := [] }

def playView : MemberView :=
  { kind := "method_declaration", name := "Play", attributes := [] }

theorem build_radio : SymbolSpace.build {} (Sketch.outlined radio) =
    .ok (.inOrder (Sketch.outlined radio)) :=
  SymbolSpace.build_inOrder (by decide) (by decide) (by decide)

theorem build_radioParts : SymbolSpace.build {} (Sketch.outlined radioParts) =
    .ok (.inOrder (Sketch.outlined radioParts)) :=
  SymbolSpace.build_inOrder (by decide) (by decide) (by decide)

theorem entryClasses_radio : (Corpus.ofSpace (.inOrder (Sketch.outlined radio))).entryClasses =
    [[volumeFieldView, playView, volumePropertyView, playView]] := by
  have hentry := (SymbolSpace.built_of_build build_radio).isEntryFragment_of_flat
    (by decide)
  simp only [Corpus.entryClasses, Corpus.ofSpace, Corpus.ofIndexes, SymbolSpace.classify,
    SymbolSpace.entryNodes, hentry]
  decide

theorem entryClasses_radioParts :
    (Corpus.ofSpace (.inOrder (Sketch.outlined radioParts))).entryClasses =
      [[volumeFieldView, playView], [volumePropertyView, playView]] := by
  have hentry := (SymbolSpace.built_of_build build_radioParts).isEntryFragment_of_flat
    (by decide)
  simp only [Corpus.entryClasses, Corpus.ofSpace, Corpus.ofIndexes, SymbolSpace.classify,
    SymbolSpace.entryNodes, hentry]
  decide

/-- In two files the radio has an unbacked property more and an overload less. -/
theorem split_class_counts_radio :
    ∃ joined split, check {} .catalog (radio.map .parsed) = .ok joined ∧
      check {} .catalog (radioParts.map .parsed) = .ok split ∧
      split.reported 15 = joined.reported 15 + 1 ∧ split.reported 16 + 1 = joined.reported 16 := by
  have hjoined := check_parsed (List.cons_ne_nil _ _) build_radio
  have hsplit := check_parsed (List.cons_ne_nil _ _) build_radioParts
  obtain ⟨corpus, corpus', hmade, hmade', hcounts⟩ :=
    split_class_counts hjoined hsplit (by decide) (by decide)
  obtain rfl := hmade.eq_of_build build_radio
  obtain rfl := hmade'.eq_of_build build_radioParts
  obtain ⟨hproperties, hoverloads, -⟩ := hcounts
    [volumeFieldView, playView, volumePropertyView, playView]
    [[volumeFieldView, playView], [volumePropertyView, playView]] []
    (by rw [entryClasses_radio]) (by rw [entryClasses_radioParts, List.append_nil]) (.refl _)
  refine ⟨_, _, hjoined, hsplit, hproperties.trans ?_, ?_⟩
  · rw [Nat.add_left_cancel_iff]
    decide
  · have hnames : ([[volumeFieldView, playView], [volumePropertyView, playView]].map
        ClassView.nameCount).sum = 2 ∧
        ClassView.nameCount [volumeFieldView, playView, volumePropertyView, playView] = 1 := by
      decide
    omega

end Radio

end Run
end SandboxLint
