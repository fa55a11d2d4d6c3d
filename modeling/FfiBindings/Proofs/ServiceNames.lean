import FfiBindings.Proofs.CaseConversion
import FfiBindings.Proofs.GeneratorRuns
import FfiBindings.Proofs.ParameterNames
import FfiBindings.Proofs.Saving

/-!
# The names that a service class declares

Any base name that is not blank is accepted, and its two forms go into the class as they come out of
the conversions. These ask nothing of the name. They change letters only, so every other character
stays, and whether the forms are labels can be told from the base name: a dash, a dot or a blank in it
makes neither of them one. A digit in front makes no label either. The class name leaves out
underscores, so there a digit must not come first behind those; the segment of the namespace keeps
them, and may have one there.
-/

namespace FfiBindings.Service

open Source (ExportedFunction)

variable {base : Text} {c : Char}

/-! ### Conversions and labels -/

/-- What a character is converted to begins labels. -/
theorem isLabelStart_of_isCaseForm (isForm : Text.isCaseForm c = true) : isLabelStart c = true := by
  by_cases ascii : c.toNat < 0x80
  · exact Text.ascii_forall (P := fun c => Text.isCaseForm c = true → isLabelStart c = true)
      (by decide +kernel) ascii isForm
  · simp [isLabelStart, Nat.le_of_not_lt ascii]

/-- A character that begins no label stays what it is. -/
theorem cases_of_not_start (other : isLabelStart c = false) :
    Text.lowerChar c = [c] ∧ Text.upperChar c = [c] := by
  have ascii : c.toNat < 0x80 := by
    by_contra beyond
    simp [isLabelStart, Nat.le_of_not_lt beyond] at other
  obtain ⟨lower, upper⟩ := Text.ascii_forall
    (P := fun c => isLabelStart c = false → c.toLower = c ∧ c.toUpper = c)
    (by decide +kernel) ascii other
  constructor
  · rw [Text.lowerChar, if_pos ascii, lower]
  · rw [Text.upperChar, if_pos ascii, upper]

/-- A form of a character that can stand in labels just where the character can. -/
structure IsFormOf (form : Text) (c : Char) : Prop where
  nonempty : form ≠ []
  starts : ∀ d ∈ form, isLabelStart d = isLabelStart c
  parts : ∀ d ∈ form, isLabelPart d = isLabelPart c

/-- A form is either the character itself, or the character begins labels and so does the form. -/
theorem IsFormOf.of_cases {form : Text} (nonempty : form ≠ [])
    (same : isLabelStart c = false → form = [c])
    (converted : ∀ d ∈ form, d = c ∨ Text.isCaseForm d = true) : IsFormOf form c := by
  cases start : isLabelStart c with
  | false =>
    rw [same start]
    refine ⟨List.cons_ne_nil _ _, ?_, ?_⟩ <;> simp
  | true =>
    have starts (d : Char) (member : d ∈ form) : isLabelStart d = true := by
      rcases converted d member with rfl | isForm
      · exact start
      · exact isLabelStart_of_isCaseForm isForm
    refine ⟨nonempty, fun d member => ?_, fun d member => ?_⟩
    · rw [starts d member, start]
    · simp [isLabelPart, starts d member, start]

theorem isFormOf_upperChar (c : Char) : IsFormOf (Text.upperChar c) c :=
  .of_cases (Text.upperChar_ne_nil c) (fun other => (cases_of_not_start other).2)
    fun _ member => Text.mem_upperChar member

theorem lowerChar_ne_nil (c : Char) : Text.lowerChar c ≠ [] := by
  unfold Text.lowerChar
  split
  · exact List.cons_ne_nil _ _
  · split <;> exact List.cons_ne_nil _ _

theorem isFormOf_lowerChar (c : Char) : IsFormOf (Text.lowerChar c) c :=
  .of_cases (lowerChar_ne_nil c) (fun other => (cases_of_not_start other).1)
    fun _ member => Text.mem_lowerChar member

theorem IsFormOf.all_append {form text rest : Text} (isForm : IsFormOf form c)
    (same : text.all isLabelPart = rest.all isLabelPart) :
    (form ++ text).all isLabelPart = (c :: rest).all isLabelPart := by
  have whole : form.all isLabelPart = isLabelPart c := by
    obtain ⟨first, others, rfl⟩ := List.exists_cons_of_ne_nil isForm.nonempty
    cases part : isLabelPart c with
    | false =>
      rw [List.all_cons, isForm.parts first List.mem_cons_self, part, Bool.false_and]
    | true =>
      refine List.all_eq_true.mpr fun d member => ?_
      rw [isForm.parts d member, part]
  rw [List.all_append, whole, same, List.all_cons]

theorem IsFormOf.head?_append {form : Text} (isForm : IsFormOf form c) (text : Text) :
    (form ++ text).head?.map isLabelStart = some (isLabelStart c) := by
  obtain ⟨first, others, rfl⟩ := List.exists_cons_of_ne_nil isForm.nonempty
  rw [List.cons_append, List.head?_cons, Option.map_some, isForm.starts first List.mem_cons_self]

/-- A label has a character in front that begins labels, and others follow it. -/
theorem isLabel_eq (name : Text) :
    isLabel name = ((name.head?.map isLabelStart).getD false && name.all isLabelPart) := by
  cases name with
  | nil => rfl
  | cons c rest =>
    rw [List.head?_cons, Option.map_some, Option.getD_some, List.all_cons, isLabel]
    cases start : isLabelStart c
    · rfl
    · rw [isLabelPart, start]
      rfl

/-- The lowercase form of a text is a label where the text is one. -/
theorem isLabel_lower (text : Text) : isLabel (Text.lower text) = isLabel text := by
  -- The characters before the text matter to a sigma only, and its forms are two letters.
  have lowered (before rest : Text) (c : Char) : ∃ form,
      Text.lowerAfter before (c :: rest) = form ++ Text.lowerAfter (c :: before) rest ∧
        IsFormOf form c := by
    refine ⟨_, rfl, ?_⟩
    split
    · next isSigma =>
      obtain rfl : c = '\u03A3' := by simpa using isSigma
      have letters : Text.isCaseForm '\u03C2' = true ∧ Text.isCaseForm '\u03C3' = true := by decide
      split <;> exact .of_cases (List.cons_ne_nil _ _) (by decide) (by simp [letters])
    · exact isFormOf_lowerChar c
  have all (before : Text) : (Text.lowerAfter before text).all isLabelPart =
      text.all isLabelPart := by
    induction text generalizing before with
    | nil => rfl
    | cons c rest inductionHypothesis =>
      obtain ⟨form, shape, isForm⟩ := lowered before rest c
      rw [shape]
      exact isForm.all_append (inductionHypothesis (c :: before))
  have head : (Text.lower text).head?.map isLabelStart = text.head?.map isLabelStart := by
    cases text with
    | nil => rfl
    | cons c rest =>
      obtain ⟨form, shape, isForm⟩ := lowered [] rest c
      rw [Text.lower, shape]
      exact isForm.head?_append _
  rw [isLabel_eq, isLabel_eq, head, Text.lower, all]

/-- The segment of the namespace is a label where the base name is one. -/
theorem isLabel_snakeCase (base : Text) : isLabel (snakeCase base) = isLabel base := by
  have separated (text : Text) : (separateCapitals text).all isLabelPart = text.all isLabelPart := by
    induction text with
    | nil => rfl
    | cons c rest inductionHypothesis =>
      have whole : separateCapitals (c :: rest) =
          (if c.isUpper then ['_', c] else [c]) ++ separateCapitals rest := rfl
      have underscore : isLabelPart '_' = true := by decide
      rw [whole, List.all_append, inductionHypothesis]
      split <;> simp [underscore]
  rw [snakeCase, isLabel_lower]
  cases base with
  | nil => rfl
  | cons c rest =>
    have parts : (c :: separateCapitals rest).all isLabelPart = (c :: rest).all isLabelPart := by
      rw [List.all_cons, List.all_cons, separated]
    rw [isLabel_eq, isLabel_eq, ← parts]
    rfl

/-- The parts of a base name are the base name without its underscores. -/
theorem flatten_split_underscore (base : Text) :
    (Text.split '_' base).flatten = base.filter (· != '_') := Text.flatten_splitWhen _ base

/-- Capitalising parts changes the first character and letters further on. -/
theorem capitalise_parts (parts : List Text) :
    (parts.flatMap capitalise).all isLabelPart = parts.flatten.all isLabelPart ∧
      (parts.flatMap capitalise).head?.map isLabelStart = parts.flatten.head?.map isLabelStart := by
  induction parts with
  | nil => exact ⟨rfl, rfl⟩
  | cons part later inductionHypothesis =>
    obtain ⟨all, head⟩ := inductionHypothesis
    cases part with
    | nil => exact ⟨all, head⟩
    | cons c rest =>
      have shape : ((c :: rest) :: later).flatMap capitalise =
          Text.upperChar c ++ (rest ++ later.flatMap capitalise) := by
        rw [List.flatMap_cons, capitalise, List.append_assoc]
      rw [shape, List.flatten_cons, List.cons_append]
      constructor
      · apply (isFormOf_upperChar c).all_append
        rw [List.all_append, List.all_append, all]
      · exact (isFormOf_upperChar c).head?_append _

/-- The class name is a label where the base name without its underscores gives one. -/
theorem isLabel_className_eq (base : Text) :
    isLabel (Names.ofBaseName base).className = isLabel (base.filter (· != '_') ++ "Service") := by
  obtain ⟨all, head⟩ := capitalise_parts (Text.split '_' base)
  rw [flatten_split_underscore] at all head
  have wholeHead : ((pascalCase base ++ "Service").head?).map isLabelStart =
      ((base.filter (· != '_') ++ "Service").head?).map isLabelStart := by
    rw [List.head?_append, List.head?_append, Option.map_or, Option.map_or, ← head]
    rfl
  have wholeParts : (pascalCase base ++ "Service").all isLabelPart =
      (base.filter (· != '_') ++ "Service").all isLabelPart := by
    rw [List.all_append, List.all_append, ← all]
    rfl
  rw [isLabel_eq, isLabel_eq, ← wholeHead, ← wholeParts]
  rfl

/-- The class name is a label where the base name is made of label characters and the first one that is
no underscore is no digit. -/
theorem isLabel_className_iff (base : Text) :
    isLabel (Names.ofBaseName base).className = true ↔
      (∀ c ∈ base, isLabelPart c = true) ∧
        ∀ c, base.find? (· != '_') = some c → c.isDigit = false := by
  have nonempty : (base.filter (· != '_') ++ "Service" : Text) ≠ [] :=
    List.append_ne_nil_of_right_ne_nil _ (by decide)
  rw [isLabel_className_eq, isLabel_iff nonempty]
  refine and_congr ?_ ?_
  · constructor
    · intro parts c member
      by_cases underscore : c = '_'
      · rw [underscore]
        decide
      · exact parts c (List.mem_append_left _ (List.mem_filter.mpr ⟨member, by simpa using underscore⟩))
    · intro parts c member
      rcases List.mem_append.mp member with inBase | inEnding
      · exact parts c (List.mem_filter.mp inBase).1
      · have ending : ("Service" : Text).all isLabelPart = true := by decide
        exact List.all_eq_true.mp ending c inEnding
  · rw [List.head?_append, List.head?_filter]
    cases base.find? (· != '_') with
    | some c => rfl
    | none =>
      have letter : ("Service" : Text).head? = some 'S' ∧ 'S'.isDigit = false := by decide
      simp [letter]

/-- Where the class name of a base name is a label, so is the base name. -/
theorem isLabel_of_className (nonempty : base ≠ [])
    (className : isLabel (Names.ofBaseName base).className = true) : isLabel base = true := by
  obtain ⟨parts, noDigit⟩ := (isLabel_className_iff base).mp className
  refine (isLabel_iff nonempty).mpr ⟨parts, fun c isFirst => ?_⟩
  by_cases underscore : c = '_'
  · rw [underscore]
    decide
  · apply noDigit
    obtain ⟨rest, rfl⟩ := List.head?_eq_some_iff.mp isFirst
    exact List.find?_cons_of_pos (by simpa using underscore)

/-! ### What a class declares -/

/-- The segments of the namespace of a service class. -/
def Names.segments (names : Names) : List Text := ["app", names.snake, "service"]

theorem Names.namespaceName_eq (names : Names) :
    names.namespaceName = Text.join "\\" names.segments := by
  simp [namespaceName, segments, Text.join]

/-- The lines by which a class is declared: those up to its name, in the namespace with the given
segments. -/
def declaringLines (segments : List Text) (className : Text) : List Text :=
  ["<?php",
    "/**",
    " * FFI Bindings Service",
    " * Auto-generated by Go-PHP FFI Code Generator",
    " *",
    " * Provides PHP interface to Go shared library functions",
    " */",
    "",
    "namespace " ++ Text.join "\\" segments ++ ";",
    "",
    "use Wuwuseo\\PhpffiGoLibrary\\GoLibraryBase;",
    "",
    "class " ++ className ++ " extends GoLibraryBase \x7b"]

/-- Whether a document declares a class of the given name in the namespace with the given segments. -/
def Declares (document : Text) (segments : List Text) (className : Text) : Prop :=
  (declaringLines segments className).flatMap (· ++ ['\n']) <+: document

theorem declares_render (functions : List ExportedFunction) (names : Names) :
    Declares (render functions names) names.segments names.className := by
  obtain ⟨others, opened⟩ : declaringLines names.segments names.className <+: openingLines names := by
    rw [declaringLines, ← Names.namespaceName_eq]
    exact ⟨(openingLines names).drop 13, rfl⟩
  rw [Declares, render_eq, classLines, ← opened, List.append_assoc (declaringLines _ _),
    List.append_assoc, List.flatMap_append]
  exact List.prefix_append _ _

/-- Where the middle segment is a label, the namespace is cut into its segments at the backslashes. -/
theorem split_namespaceName {names : Names} (label : isLabel names.snake = true) :
    Text.split '\\' names.namespaceName = names.segments := by
  have nonempty : names.snake ≠ [] := by
    intro empty
    rw [empty] at label
    contradiction
  have parts := ((isLabel_iff nonempty).mp label).1
  have kept {segment : Text} (whole : '\\' ∉ segment) : ∀ c ∈ segment, (c == '\\') = false :=
    fun c member => beq_false_of_ne fun same => whole (same ▸ member)
  have snake : '\\' ∉ names.snake := fun member => absurd (parts _ member) (by decide)
  have shape : names.namespaceName = "app" ++ '\\' :: (names.snake ++ '\\' :: "service") := by
    rw [Names.namespaceName, List.append_assoc]
    rfl
  rw [shape, Text.split, Text.splitWhen_append_cons _ (kept (by decide)) (by decide),
    Text.splitWhen_append_cons _ (kept snake) (by decide), Text.splitWhen_of_kept (kept (by decide))]
  rfl

/-- A blank base name is refused before anything is touched. -/
theorem save_of_blank (blank : ∀ c ∈ base, Text.isBlank c = true)
    (functions : List ExportedFunction) (directory : Path) (host : Host) :
    (save functions base directory).on host = (.error (.invalidBaseName base), host) := by
  have empty : (Text.trim base).isEmpty = true := List.isEmpty_iff.mpr (Text.trim_eq_nil_iff.mpr blank)
  unfold save
  rw [if_pos empty]
  rfl

/-- No other base name is refused. -/
theorem blank_of_refused {functions : List ExportedFunction} {directory : Path} {host : Host}
    {refused : Text}
    (failed : ((save functions base directory).on host).1 = .error (.invalidBaseName refused)) :
    ∀ c ∈ base, Text.isBlank c = true := by
  have run := saves functions base directory host
  rw [failed] at run
  generalize ((save functions base directory).on host).2 = after at run
  cases run with
  | blank isBlank => exact Text.trim_eq_nil_iff.mp (List.isEmpty_iff.mp isBlank)

/-- What was saved is read back, and declares a class under the names that the base name gives. -/
theorem declares_of_save {functions : List ExportedFunction} {directory path : Path}
    {host after : Host} (saved : (save functions base directory).on host = (.ok path, after)) :
    ∃ document, after.files.readText after.directory path = .ok document ∧
      Declares document (Names.ofBaseName base).segments (Names.ofBaseName base).className := by
  have run := saves functions base directory host
  rw [saved] at run
  cases run with
  | written named prepared stored =>
    exact ⟨_, FileSystem.readText_of_write stored, declares_render functions _⟩

/-- The names of a service class. A base name is refused just where it is blank, before anything is
touched, and nothing else is asked of it. What is saved for any other one declares a class in a
namespace, under the names that the conversions give. The segments of the namespace are labels where the
base name is a label, and then the namespace has no more segments than these. The class name is one where
the base name is made of label characters and the first one behind underscores in front is no digit; then
the segments are labels, too. -/
theorem save_names (functions : List ExportedFunction) (base : Text) (directory : Path)
    (host : Host) :
    ((∀ c ∈ base, Text.isBlank c = true) →
      (save functions base directory).on host = (.error (.invalidBaseName base), host)) ∧
    (∀ refused, ((save functions base directory).on host).1 = .error (.invalidBaseName refused) →
      ∀ c ∈ base, Text.isBlank c = true) ∧
    (∀ path after, (save functions base directory).on host = (.ok path, after) →
      ∃ document, after.files.readText after.directory path = .ok document ∧
        Declares document (Names.ofBaseName base).segments (Names.ofBaseName base).className) ∧
    ((∀ segment ∈ (Names.ofBaseName base).segments, isLabel segment = true) ↔
      isLabel base = true) ∧
    (isLabel base = true →
      Text.split '\\' (Names.ofBaseName base).namespaceName = (Names.ofBaseName base).segments) ∧
    (isLabel (Names.ofBaseName base).className = true ↔
      (∀ c ∈ base, isLabelPart c = true) ∧
        ∀ c, base.find? (· != '_') = some c → c.isDigit = false) ∧
    (base ≠ [] → isLabel (Names.ofBaseName base).className = true → isLabel base = true) := by
  have segments : (∀ segment ∈ (Names.ofBaseName base).segments, isLabel segment = true) ↔
      isLabel base = true := by
    have fixed : isLabel "app" = true ∧ isLabel "service" = true := by decide
    simp only [Names.segments, List.forall_mem_cons, fixed, true_and, List.not_mem_nil,
      false_imp_iff, implies_true, and_true]
    exact Bool.eq_iff_iff.mp (isLabel_snakeCase base)
  refine ⟨?_, ?_, ?_, segments, ?_, isLabel_className_iff base, ?_⟩
  · intro blank
    exact save_of_blank blank functions directory host
  · intro refused failed
    exact blank_of_refused failed
  · intro path after saved
    exact declares_of_save saved
  · intro label
    exact split_namespaceName ((isLabel_snakeCase base).trans label)
  · intro nonempty className
    exact isLabel_of_className nonempty className

/-- A segment may be a label where the class name is none. -/
example : Names.ofBaseName "_2d_größe" = ⟨"_2d_größe", "2dGröße"⟩ ∧
    isLabel "_2d_größe" = true ∧ isLabel "2dGrößeService" = false := by
  decide +kernel

/-- A class is saved for a base name with a dash, and neither its name nor its namespace is one. -/
theorem not_isLabel_dashed :
    ∃ path after document,
      (save [] "my-lib" (.ofText "/dist")).on Config.plainHost = (.ok path, after) ∧
        after.files.readText after.directory path = .ok document ∧
        Declares document ["app", "my-lib", "service"] "My-libService" ∧
        isLabel "my-lib" = false ∧ isLabel "My-libService" = false := by
  have succeeds : ((save [] "my-lib" (.ofText "/dist")).on Config.plainHost).1.isOk = true := by
    decide +kernel
  rcases saved : (save [] "my-lib" (.ofText "/dist")).on Config.plainHost with ⟨error | path, after⟩
  · rw [saved] at succeeds
    contradiction
  · obtain ⟨document, read, declared⟩ := declares_of_save saved
    have names : Names.ofBaseName "my-lib" = ⟨"my-lib", "My-lib"⟩ := by decide +kernel
    rw [names] at declared
    have className : Names.className ⟨"my-lib", "My-lib"⟩ = "My-libService" := by decide
    rw [className] at declared
    exact ⟨path, after, document, rfl, read, declared, by decide, by decide⟩

end FfiBindings.Service
