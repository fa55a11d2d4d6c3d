import FfiBindings.Proofs.CaseConversion
import FfiBindings.Proofs.Descriptors
import FfiBindings.Proofs.ServiceLines
import Mathlib.Data.List.Nodup
import Mathlib.Data.List.Pairwise

/-!
# The methods of a service class

Which methods a class declares is read off its lines: a declaration is an indented line with a
visibility, the word `function` and the name up to the parenthesis. The class of an extraction
declares what its opening declares, which is `getBaseDir`, and then the exported functions under
their names, whatever their comments and parameters are.

Exported names are different as they are written, since the extraction refuses a repeated one. PHP
tells method names apart without regard to the case of ASCII letters, and this the extraction does
not look at. So a class may declare a method twice, and the laws here say when: an exported function
is called like the fixed method, or two bear names that differ in case alone.
-/

namespace FfiBindings.Service

open Source (Extraction ExportedFunction extract)

/-- The name under which a line of a class declares a method, where it declares one. -/
def declaredMethod? (line : Text) : Option Text :=
  let afterPublic := List.isPrefixOf? ("    public function " : Text) line
  let afterProtected := List.isPrefixOf? ("    protected function " : Text) line
  (afterPublic <|> afterProtected).map (·.takeWhile (· != '('))

/-- The names of the methods that the text of a class declares, in order. -/
def declaredMethods (code : Text) : List Text := (Text.lines code).filterMap declaredMethod?

/-- PHP takes two method names for the same when they differ in the case of ASCII letters only. -/
def SameMethod (left right : Text) : Prop := left.map Char.toLower = right.map Char.toLower

instance (left right : Text) : Decidable (SameMethod left right) := by
  unfold SameMethod
  infer_instance

/-- No two of the names are the same method. -/
def DistinctMethods (names : List Text) : Prop :=
  names.Pairwise fun left right => ¬ SameMethod left right

instance (names : List Text) : Decidable (DistinctMethods names) := by
  unfold DistinctMethods
  infer_instance

/-- The fixed method of every class and then one for each function. -/
def methodNames (functions : List ExportedFunction) : List Text :=
  "getBaseDir" :: functions.map (·.name)

/-- An indented line declares no method when it does not begin with a visibility. -/
theorem declaredMethod?_indented {c : Char} (other : c ≠ 'p') (rest : Text) :
    declaredMethod? (indent ++ c :: rest) = none := by
  have different : ('p' == c) = false := by simpa using other.symm
  simp [declaredMethod?, indent, List.isPrefixOf?, different]

/-- The documentation of a function declares no method: its lines begin with a slash or a space
behind the indentation, whatever the comment is. -/
theorem filterMap_docLines (function : ExportedFunction) :
    ((docLines function).map (indent ++ ·)).filterMap declaredMethod? = [] := by
  have begins : ∀ line ∈ docLines function, ∃ c rest, line = c :: rest ∧ c ≠ 'p' := by
    intro line member
    simp only [docLines, summary, List.mem_cons, List.mem_append, List.mem_map, List.not_mem_nil,
      or_false] at member
    rcases member with rfl | (summarised | ⟨parameter, _, rfl⟩) | rfl | rfl
    · exact ⟨'/', _, rfl, by decide⟩
    · split at summarised
      · contradiction
      · exact ⟨' ', _, List.mem_singleton.mp summarised, by decide⟩
    · exact ⟨' ', _, rfl, by decide⟩
    · exact ⟨' ', _, rfl, by decide⟩
    · exact ⟨' ', _, rfl, by decide⟩
  apply List.filterMap_eq_nil_iff.mpr
  intro indented member
  obtain ⟨line, inBlock, rfl⟩ := List.mem_map.mp member
  obtain ⟨c, rest, rfl, other⟩ := begins line inBlock
  exact declaredMethod?_indented other rest

/-- The line that declares the method of a function is read as such. -/
theorem declaredMethod?_signature {function : ExportedFunction} (whole : '(' ∉ function.name) :
    declaredMethod? (signature function) = some function.name := by
  have shape : ∃ rest, signature function =
      "    public function " ++ (function.name ++ '(' :: rest) := by
    simp only [signature, List.append_assoc]
    exact ⟨_, rfl⟩
  obtain ⟨rest, shape⟩ := shape
  have behind : List.isPrefixOf? ("    public function " : Text) (signature function) =
      some (function.name ++ '(' :: rest) :=
    List.isPrefixOf?_eq_some_iff_append_eq.mpr shape.symm
  have kept : ∀ c ∈ function.name, (c != '(') = true := by
    intro c member
    rw [bne_iff_ne]
    rintro rfl
    exact whole member
  have name : (function.name ++ '(' :: rest).takeWhile (· != '(') = function.name := by
    rw [List.takeWhile_append_of_pos kept, List.takeWhile_cons_of_neg (by decide), List.append_nil]
  simp only [declaredMethod?, behind]
  exact congrArg some name

/-- The lines for one function declare one method, under its name. -/
theorem filterMap_wrapperLines {function : ExportedFunction} (whole : '(' ∉ function.name) :
    (wrapperLines function).filterMap declaredMethod? = [function.name] := by
  have body : declaredMethod? (indent ++ indent ++ statement function) = none := by
    rw [List.append_assoc]
    exact declaredMethod?_indented (by decide) _
  have closing : declaredMethod? (indent ++ "\x7d") = none := by decide
  have blank : declaredMethod? [] = none := by decide
  simp only [wrapperLines, methodLines, List.filterMap_append, filterMap_docLines,
    List.filterMap_cons, declaredMethod?_signature whole, body, closing, blank, List.filterMap_nil]
  rfl

/-- The lines of the opening hold no line feeds when the names of the service hold none. -/
theorem break_notMem_openingLines {names : Names} (snake : '\n' ∉ names.snake)
    (pascal : '\n' ∉ names.pascal) : ∀ line ∈ openingLines names, '\n' ∉ line := by
  have segment : '\n' ∉ names.namespaceName :=
    List.not_mem_append (List.not_mem_append (by decide) snake) (by decide)
  have namespaceLine : '\n' ∉ "namespace " ++ names.namespaceName ++ ";" :=
    List.not_mem_append (List.not_mem_append (by decide) segment) (by decide)
  have className : '\n' ∉ names.className := List.not_mem_append pascal (by decide)
  have classLine : '\n' ∉ "class " ++ names.className ++ " extends GoLibraryBase \x7b" :=
    List.not_mem_append (List.not_mem_append (by decide) className) (by decide)
  -- All other lines are fixed.
  simp only [openingLines, List.forall_mem_cons]
  and_intros
  all_goals first | decide | exact namespaceLine | exact classLine

/-- The opening declares the fixed method and nothing else, as long as the names of the service stay
on their lines. -/
theorem declaredMethods_opening {names : Names} (snake : '\n' ∉ names.snake)
    (pascal : '\n' ∉ names.pascal) : declaredMethods (opening names) = ["getBaseDir"] := by
  have cut : Text.lines (opening names) = openingLines names :=
    Text.lines_flatMap (break_notMem_openingLines snake pascal)
  rw [declaredMethods, cut]
  rfl

/-- A class declares what its opening declares, and then every function under its name. -/
theorem declaredMethods_render {functions : List ExportedFunction}
    (unbroken : ∀ function ∈ functions, Unbroken function)
    (named : ∀ function ∈ functions, '(' ∉ function.name) (names : Names) :
    declaredMethods (render functions names) =
      declaredMethods (opening names) ++ functions.map (·.name) := by
  have behind : ∀ line ∈ functions.flatMap wrapperLines ++ [['\x7d']], '\n' ∉ line := by
    intro line member
    rcases List.mem_append.mp member with inWrapper | isBrace
    · obtain ⟨function, isFunction, inLines⟩ := List.mem_flatMap.mp inWrapper
      exact break_notMem_wrapperLines (unbroken function isFunction) line inLines
    · rw [List.mem_singleton.mp isBrace]
      decide
  have cut : Text.lines (render functions names) =
      Text.lines (opening names) ++ (functions.flatMap wrapperLines ++ [['\x7d']]) := by
    rw [render_eq, classLines, List.append_assoc, List.flatMap_append,
      Text.lines_flatMap_append, Text.lines_flatMap behind]
    rfl
  have wrappers : (functions.flatMap wrapperLines).filterMap declaredMethod? =
      functions.map (·.name) := by
    rw [List.filterMap_flatMap, ← List.flatMap_pure_eq_map]
    exact List.flatMap_congr fun function member => filterMap_wrapperLines (named function member)
  have closing : [['\x7d']].filterMap declaredMethod? = [] := by decide
  rw [declaredMethods, cut, List.filterMap_append, List.filterMap_append, wrappers, closing,
    List.append_nil, declaredMethods]

/-- Every function of an extraction brings only whole lines into a class, and its name holds no
parenthesis: names are words, and comments and parameters come from single lines. -/
theorem unbroken_of_extract {source : Text} {extraction : Extraction} {function : ExportedFunction}
    (extracted : extract source = .ok extraction) (member : function ∈ extraction.functions) :
    Unbroken function ∧ '(' ∉ function.name := by
  obtain ⟨index, head, described⟩ := Source.exists_describedAt extracted member
  have wholeLines : ∀ line ∈ Text.lines source, '\n' ∉ line :=
    fun line cut => Text.unbroken_of_mem_lines cut
  have isWord := described.word_of_name
  refine ⟨⟨fun inName => ?_, ?_, fun parameter bound inName => ?_⟩, fun inName => ?_⟩
  · exact absurd (isWord '\n' inName) (by decide)
  · exact described.comment ▸ Source.unbroken_commentBefore wholeLines index
  · have isFirst : parameter.name ∈ Source.firstFields head.parameters :=
      described.parameterNames ▸ List.mem_map_of_mem bound
    exact absurd ((Source.solid_of_mem_firstFields isFirst).2.1 '\n' inName) (by decide)
  · exact absurd (isWord '(' inName) (by decide)

instance : Std.Symm fun left right : Text => ¬ SameMethod left right where
  symm _ _ unlike same := unlike same.symm

/-- Among names that are different as they are written, every method is declared once exactly when
one method is never written in two ways. -/
theorem distinctMethods_iff {names : List Text} (different : names.Nodup) :
    DistinctMethods names ↔
      ∀ left ∈ names, ∀ right ∈ names, SameMethod left right → left = right := by
  constructor
  · intro distinct left leftMember right rightMember same
    by_contra unequal
    exact distinct.forall leftMember rightMember unequal same
  · intro sameWriting
    apply different.pairwise_of_forall_ne
    intro left leftMember right rightMember unequal same
    exact unequal (sameWriting left leftMember right rightMember same)

/-- Among functions of different names, every method is declared once exactly when none of them is
called like the fixed method and no two of them differ in case alone. -/
theorem distinctMethods_methodNames_iff {functions : List ExportedFunction}
    (different : (functions.map (·.name)).Nodup) :
    DistinctMethods (methodNames functions) ↔
      (∀ function ∈ functions, ¬ SameMethod "getBaseDir" function.name) ∧
        ∀ left ∈ functions, ∀ right ∈ functions,
          SameMethod left.name right.name → left.name = right.name := by
  have exported := distinctMethods_iff different
  simp only [List.forall_mem_map] at exported
  rw [methodNames, DistinctMethods, List.pairwise_cons, List.forall_mem_map]
  exact and_congr_right fun _ => exported

/-- Which methods the class of an extraction declares, and when it declares each only once. Exported
names are different as they are written. Behind the methods of the opening, which is the fixed one
alone when the base name stays on one line, the class declares one method for each function, in
order and under its name. Taken as PHP takes them, these names are different unless a function is
called like the fixed method or two functions bear names that differ in case alone: the extraction
compares names as they are written, and refuses neither. -/
theorem declaredMethods_of_extract (source : Text) (extraction : Extraction)
    (extracted : extract source = .ok extraction) (base : Text) :
    (extraction.functions.map (·.name)).Nodup ∧
      declaredMethods (render extraction.functions (.ofBaseName base)) =
        declaredMethods (opening (.ofBaseName base)) ++ extraction.functions.map (·.name) ∧
      ('\n' ∉ base → declaredMethods (opening (.ofBaseName base)) = ["getBaseDir"]) ∧
      (DistinctMethods (methodNames extraction.functions) ↔
        (∀ function ∈ extraction.functions, ¬ SameMethod "getBaseDir" function.name) ∧
          ∀ left ∈ extraction.functions, ∀ right ∈ extraction.functions,
            SameMethod left.name right.name → left.name = right.name) := by
  have different := Source.nodup_names extracted
  refine ⟨different, ?_, fun whole => ?_, distinctMethods_methodNames_iff different⟩
  · exact declaredMethods_render (fun _ member => (unbroken_of_extract extracted member).1)
      (fun _ member => (unbroken_of_extract extracted member).2) _
  · exact declaredMethods_opening (break_notMem_snakeCase whole) (break_notMem_pascalCase whole)

/-- Two functions of different names. -/
def counters : Text := "//export Add\nfunc Add(by int)\n//export Reset\nfunc Reset()\n"

/-- What that source holds. -/
def countersExtraction : Extraction :=
  { functions := [
      { name := "Add", comment := "", parameters := [⟨"by", "int"⟩], result := "void", line := 2 },
      { name := "Reset", comment := "", parameters := [], result := "void", line := 4 }]
    skipped := [] }

/-- The law at that source: every method of its class is declared once. -/
theorem declaredMethods_of_extract_counters :
    extract counters = .ok countersExtraction ∧
      declaredMethods (render countersExtraction.functions (.ofBaseName "my_go")) =
        methodNames countersExtraction.functions ∧
      DistinctMethods (methodNames countersExtraction.functions) := by
  have found : extract counters = .ok countersExtraction := rfl
  obtain ⟨_, rendered, fixed, distinct⟩ :=
    declaredMethods_of_extract counters countersExtraction found "my_go"
  refine ⟨found, ?_, distinct.mpr (by decide)⟩
  rw [rendered, fixed (by decide)]
  rfl

/-- Two functions whose names differ in case alone. -/
def twins : Text := "//export Add\nfunc Add() \x7b\n\x7d\n//export add\nfunc add() \x7b\n\x7d\n"

/-- What that source holds. -/
def twinsExtraction : Extraction :=
  { functions := [
      { name := "Add", comment := "", parameters := [], result := "void", line := 2 },
      { name := "add", comment := "", parameters := [], result := "void", line := 5 }]
    skipped := [] }

/-- The extraction of that source succeeds, and PHP sees one method declared twice in its class. -/
theorem not_distinctMethods_twins :
    extract twins = .ok twinsExtraction ∧
      ¬ DistinctMethods
        (declaredMethods (render twinsExtraction.functions (.ofBaseName "svc"))) := by
  have found : extract twins = .ok twinsExtraction := rfl
  refine ⟨found, ?_⟩
  rw [declaredMethods_render (fun _ member => (unbroken_of_extract found member).1)
    fun _ member => (unbroken_of_extract found member).2, declaredMethods_opening (by decide)
    (by decide)]
  decide

end FfiBindings.Service
