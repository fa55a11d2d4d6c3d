import FfiBindings.Proofs.Descriptors
import FfiBindings.Proofs.ServiceLines

/-!
# The parameters of a method

A parameter is named by whatever stands first between two commas of the list, and that text becomes
a variable as it is. The extraction asks no more of it than to be there: it looks neither for
repeated names nor for characters that PHP does not allow in a label, and `this` is a name like any
other.

So a parameter list is legal in PHP exactly when the first fields are different labels other than
`this`. Identifiers are labels, and a list of different ones is legal unless `this` is among them.
What makes lists illegal are blank identifiers, which may be repeated, and function types, whose own
commas are taken for commas of the list. Where the list is legal, PHP reads the variables of the
signature as the parameters were named.
-/

namespace FfiBindings.Service

open Source (Parameter Extraction ExportedFunction extract declared? firstFields)

/-- Whether a character can begin a label: a letter of ASCII, an underscore or anything beyond
    ASCII. -/
def isLabelStart (c : Char) : Bool := c.isAlpha || c == '_' || 0x80 ≤ c.toNat

/-- Whether a character can stand in a label, where digits may follow. -/
def isLabelPart (c : Char) : Bool := isLabelStart c || c.isDigit

/-- Whether a text is a label of PHP. -/
def isLabel : Text → Bool
  | [] => false
  | c :: rest => isLabelStart c && rest.all isLabelPart

/-- Variables of these names can be declared together as parameters of a method. -/
def LegalParameters (names : List Text) : Prop :=
  names.Nodup ∧ ∀ name ∈ names, isLabel name = true ∧ name ≠ "this"

instance (names : List Text) : Decidable (LegalParameters names) := by
  unfold LegalParameters
  infer_instance

/-- The variables in a text of PHP: behind each dollar sign, the longest text that can stand in a
    label. -/
def variableNames : Text → List Text
  | [] => []
  | c :: rest =>
      if c == '$' then rest.takeWhile isLabelPart :: variableNames rest else variableNames rest

/-- Only digits stand in labels without beginning one. -/
theorem isLabelStart_iff {c : Char} :
    isLabelStart c = true ↔ isLabelPart c = true ∧ c.isDigit = false := by
  have noStart : c.isDigit = true → isLabelStart c = false := by
    intro digit
    have range : 48 ≤ c.toNat ∧ c.toNat ≤ 57 := by
      simpa [Char.isDigit, UInt32.le_iff_toNat_le] using digit
    have table : ∀ code < 58, 48 ≤ code → isLabelStart (Char.ofNat code) = false := by decide
    simpa only [Char.ofNat_toNat] using table c.toNat (Nat.lt_succ_of_le range.2) range.1
  cases digit : c.isDigit
  · simp [isLabelPart, digit]
  · simp [noStart digit]

/-- A nonempty text is a label exactly when its characters can stand in one and the first is no
digit. -/
theorem isLabel_iff {name : Text} (nonempty : name ≠ []) :
    isLabel name = true ↔
      (∀ c ∈ name, isLabelPart c = true) ∧ ∀ c, name.head? = some c → c.isDigit = false := by
  cases name with
  | nil => contradiction
  | cons c rest =>
    simp [isLabel, isLabelStart_iff, and_assoc, and_comm]

/-- Nonempty names are legal together exactly when they are different, made of label characters
without a digit in front, and none is `this`. -/
theorem legalParameters_iff {names : List Text} (nonempty : ∀ name ∈ names, name ≠ []) :
    LegalParameters names ↔
      names.Nodup ∧ ∀ name ∈ names, (∀ c ∈ name, isLabelPart c = true) ∧
        (∀ c, name.head? = some c → c.isDigit = false) ∧ name ≠ "this" := by
  refine and_congr_right fun _ => forall₂_congr fun name member => ?_
  rw [isLabel_iff (nonempty name member), and_assoc]

/-- Word characters can stand in labels. -/
theorem isLabelPart_of_isWord {c : Char} (word : Text.isWord c = true) : isLabelPart c = true := by
  unfold Text.isWord at word
  split at word
  · simp only [Char.isAlphanum, Bool.or_eq_true] at word
    rcases word with (letter | digit) | underscore
    · simp [isLabelPart, isLabelStart, letter]
    · simp [isLabelPart, digit]
    · simp [isLabelPart, isLabelStart, underscore]
  · next beyond => simp [isLabelPart, isLabelStart, Nat.le_of_not_lt beyond]

/-- No variable stands in a text without dollar signs. -/
theorem variableNames_append {front : Text} (plain : '$' ∉ front) (back : Text) :
    variableNames (front ++ back) = variableNames back := by
  induction front with
  | nil => rfl
  | cons c front inductionHypothesis =>
    rw [List.mem_cons, not_or] at plain
    have other : (c == '$') = false := by simpa using Ne.symm plain.1
    rw [List.cons_append, variableNames, other, ← inductionHypothesis plain.2]
    rfl

/-- A variable is read back where its name is a label and the text behind it does not go on like
one. -/
theorem variableNames_variableName {name : Text} {c : Char} (rest : Text)
    (label : ∀ d ∈ name, isLabelPart d = true) (stops : isLabelPart c = false) :
    variableNames (variableName name ++ c :: rest) = name :: variableNames (c :: rest) := by
  have plain : '$' ∉ name := fun member => absurd (label '$' member) (by decide)
  have whole : (name ++ c :: rest).takeWhile isLabelPart = name := by
    rw [List.takeWhile_append_of_pos label, List.takeWhile_cons_of_neg (by simp [stops]),
      List.append_nil]
  have unfolded : variableNames ('$' :: (name ++ c :: rest)) =
      (name ++ c :: rest).takeWhile isLabelPart :: variableNames (name ++ c :: rest) := rfl
  rw [variableName, List.cons_append, unfolded, whole, variableNames_append plain]

/-- The positions of a signature are read back as the names of the parameters. -/
theorem variableNames_positions {parameters : List Parameter} (rest : Text)
    (labels : ∀ parameter ∈ parameters, ∀ c ∈ parameter.name, isLabelPart c = true) :
    variableNames (Text.join ", " (parameters.map signaturePosition) ++ ')' :: rest) =
      parameters.map (·.name) ++ variableNames (')' :: rest) := by
  induction parameters with
  | nil => rfl
  | cons parameter later inductionHypothesis =>
    have label := labels parameter List.mem_cons_self
    have tail := inductionHypothesis fun other member =>
      labels other (List.mem_cons_of_mem parameter member)
    have position := signaturePosition_eq parameter
    have plain : '$' ∉ hintInFront (hintType parameter.type) :=
      fun inHint => absurd (mem_hintInFront '$' inHint) (by decide)
    cases later with
    | nil =>
      rw [List.map_cons, List.map_nil, Text.join, position, List.append_assoc,
        variableNames_append plain, variableNames_variableName _ label (by decide)]
      rfl
    | cons next others =>
      have whole : Text.join ", " ((parameter :: next :: others).map signaturePosition) =
          hintInFront (hintType parameter.type) ++ variableName parameter.name ++ ", " ++
            Text.join ", " ((next :: others).map signaturePosition) := by
        rw [← position]
        rfl
      have separated : '$' ∉ (", " : Text) := by decide
      have read (behind : Text) : variableNames (variableName parameter.name ++ (", " ++ behind)) =
          parameter.name :: variableNames (", " ++ behind) :=
        variableNames_variableName _ label (by decide)
      rw [whole, List.append_assoc, List.append_assoc, List.append_assoc,
        variableNames_append plain, read, variableNames_append separated, tail]
      rfl

/-- The signature of a method declares the parameters under their names, where these are made of
label characters. -/
theorem variableNames_signature {function : ExportedFunction} (named : '$' ∉ function.name)
    (labels : ∀ parameter ∈ function.parameters, ∀ c ∈ parameter.name, isLabelPart c = true) :
    variableNames (signature function) = function.parameters.map (·.name) := by
  have start : '$' ∉ indent ++ "public function " ++ function.name ++ "(" :=
    List.not_mem_append (List.not_mem_append (by decide) named) (by decide)
  have hinted : '$' ∉ resultHint function := by
    rw [resultHint_eq]
    exact fun member => absurd (mem_hintBehind '$' member) (by decide)
  have behind : '$' ∉ ")" ++ resultHint function ++ " \x7b" :=
    List.not_mem_append (List.not_mem_append (by decide) hinted) (by decide)
  have whole : signature function = indent ++ "public function " ++ function.name ++ "(" ++
      (Text.join ", " (function.parameters.map signaturePosition) ++
        ')' :: (resultHint function ++ " \x7b")) := by
    simp only [signature, List.append_assoc]
    rfl
  have nothing : variableNames (')' :: (resultHint function ++ " \x7b")) = [] := by
    have plain := variableNames_append behind []
    rwa [List.append_nil] at plain
  rw [whole, variableNames_append start, variableNames_positions _ labels, nothing, List.append_nil]

/-- What becomes of a parameter list. The parameters of an exported function are named, in order, by
what stands first between the commas of its list, and nothing is asked of these texts: they are
nonempty and hold neither blanks nor commas, because they were cut out of the list. The names can be
declared together in PHP exactly when they are different, are made of label characters without a
digit in front, and none is `this`. So different identifiers other than `this` can, and where the
names are legal the signature of the method declares just these variables. -/
theorem parameterNames_of_extract (source : Text) (extraction : Extraction)
    (extracted : extract source = .ok extraction) (function : ExportedFunction)
    (member : function ∈ extraction.functions) :
    ∃ index head, declared? (Text.lines source) index = some head ∧ function.line = index + 1 ∧
      function.parameters.map (·.name) = firstFields head.parameters ∧
      (∀ field ∈ firstFields head.parameters,
        field ≠ [] ∧ (∀ c ∈ field, Text.isBlank c = false) ∧ ',' ∉ field) ∧
      (LegalParameters (function.parameters.map (·.name)) ↔
        (firstFields head.parameters).Nodup ∧ ∀ field ∈ firstFields head.parameters,
          (∀ c ∈ field, isLabelPart c = true) ∧
            (∀ c, field.head? = some c → c.isDigit = false) ∧ field ≠ "this") ∧
      ((firstFields head.parameters).Nodup →
        (∀ field ∈ firstFields head.parameters, (∀ c ∈ field, Text.isWord c = true) ∧
          (∀ c, field.head? = some c → c.isDigit = false) ∧ field ≠ "this") →
        LegalParameters (function.parameters.map (·.name))) ∧
      (LegalParameters (function.parameters.map (·.name)) →
        variableNames (signature function) = function.parameters.map (·.name)) := by
  obtain ⟨index, head, described⟩ := Source.exists_describedAt extracted member
  have nonempty : ∀ field ∈ firstFields head.parameters, field ≠ [] :=
    fun _ isFirst => (Source.solid_of_mem_firstFields isFirst).1
  have legal_iff := legalParameters_iff nonempty
  refine ⟨index, head, described.declared, described.line, described.parameterNames,
    fun _ isFirst => Source.solid_of_mem_firstFields isFirst, ?_, ?_, ?_⟩
  · rw [described.parameterNames]
    exact legal_iff
  · intro different identifiers
    rw [described.parameterNames]
    refine legal_iff.mpr ⟨different, fun field isFirst => ?_⟩
    obtain ⟨word, noDigit, notThis⟩ := identifiers field isFirst
    exact ⟨fun c inField => isLabelPart_of_isWord (word c inField), noDigit, notThis⟩
  · intro legal
    apply variableNames_signature
    · exact fun inName => absurd (described.word_of_name '$' inName) (by decide)
    · intro parameter bound
      rw [described.parameterNames] at legal
      have isFirst : parameter.name ∈ firstFields head.parameters :=
        described.parameterNames ▸ List.mem_map_of_mem bound
      exact ((legal_iff.mp legal).2 _ isFirst).1

/-- A function with parameters that share a type. -/
def shared : Text := "//export Clamp\nfunc Clamp(value, low, high int, élan string) int \x7b\n"

/-- What that source holds. -/
def sharedExtraction : Extraction :=
  { functions := [
      { name := "Clamp", comment := "",
        parameters := [⟨"value", "int"⟩, ⟨"low", "int"⟩, ⟨"high", "int"⟩, ⟨"élan", "string"⟩],
        result := "int", line := 2 }]
    skipped := [] }

/-- The law at that source: the list is legal, and the signature declares its four variables. -/
theorem parameterNames_of_extract_shared :
    extract shared = .ok sharedExtraction ∧ ∃ function ∈ sharedExtraction.functions,
      LegalParameters (function.parameters.map (·.name)) ∧
        variableNames (signature function) = ["value", "low", "high", "élan"] := by
  have found : extract shared = .ok sharedExtraction := rfl
  obtain ⟨index, head, _, _, _, _, _, _, declares⟩ :=
    parameterNames_of_extract shared sharedExtraction found _ List.mem_cons_self
  have legal : LegalParameters ["value", "low", "high", "élan"] := by decide
  exact ⟨found, _, List.mem_cons_self, legal, declares legal⟩

/-- Two functions that are legal in their own language: one ignores two parameters and calls a third
`this`, the other takes a function. -/
def unusual : Text :=
  "//export Two\nfunc Two(_ int, _ string, this bool) \x7b\x7d\n" ++
    "//export Apply\nfunc Apply(call func(int, int) int, value int) int \x7b\n"

/-- What that source holds. -/
def unusualExtraction : Extraction :=
  { functions := [
      { name := "Two", comment := "",
        parameters := [⟨"_", "int"⟩, ⟨"_", "string"⟩, ⟨"this", "bool"⟩], result := "void",
        line := 2 },
      { name := "Apply", comment := "",
        parameters := [⟨"call", "func(int"⟩, ⟨"int)", "int"⟩, ⟨"value", "int"⟩], result := "int",
        line := 4 }]
    skipped := [] }

/-- Neither list is legal: in the first a name is repeated and another is reserved, and the second
has a name that is no label. -/
theorem not_legalParameters_unusual :
    extract unusual = .ok unusualExtraction ∧ ∀ function ∈ unusualExtraction.functions,
      ¬ LegalParameters (function.parameters.map (·.name)) :=
  ⟨rfl, by decide⟩

end FfiBindings.Service
