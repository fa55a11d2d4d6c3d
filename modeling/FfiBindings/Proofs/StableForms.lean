import FfiBindings.Proofs.CaseConversion
import FfiBindings.Proofs.GeneratorRuns

/-!
# Converting a name again

The two forms of a base name of ASCII do not drift apart. Putting underscores before its capitals marks
where parts begin, and the letter behind an underscore is a capital in the class name anyway. So the
class name of the namespace segment is that of the base name, and converting a form to itself changes
nothing. The class name is read character by character for this: all that has to be known is whether
the next character begins a part.

Beyond ASCII a segment may give another class name: the lowercase form of a capital may have an uppercase
form that is not this capital.
-/

namespace FfiBindings.Text

variable {text : Text} {c : Char}

/-- Whether a text is made of characters of ASCII. -/
def IsAscii (text : Text) : Prop := ∀ c ∈ text, c.toNat < 0x80

instance (text : Text) : Decidable (IsAscii text) :=
  List.decidableBAll (fun c : Char => c.toNat < 0x80) text

theorem isAscii_cons : IsAscii (c :: text) ↔ c.toNat < 0x80 ∧ IsAscii text := List.forall_mem_cons

/-- What becomes of a character of ASCII: its forms are of ASCII, and the lowercase one is no capital and
is an underscore only if the character is one; the uppercase form is the same for both and its own. -/
structure AsciiForms (c : Char) : Prop where
  ascii : c.toLower.toNat < 0x80
  upperAscii : c.toUpper.toNat < 0x80
  lowered : c.toLower.isUpper = false
  underscore : c.toLower = '_' ↔ c = '_'
  raised : c.toLower.toUpper = c.toUpper
  again : c.toUpper.toUpper = c.toUpper
  capital : c.isUpper = true → c.toUpper = c
  other : c.isUpper = false → c.toLower = c

theorem asciiForms (ascii : c.toNat < 0x80) : AsciiForms c := by
  have table : ∀ code < 0x80, (Char.ofNat code).toLower.toNat < 0x80 ∧
      (Char.ofNat code).toUpper.toNat < 0x80 ∧
      (Char.ofNat code).toLower.isUpper = false ∧
      ((Char.ofNat code).toLower = '_' ↔ Char.ofNat code = '_') ∧
      (Char.ofNat code).toLower.toUpper = (Char.ofNat code).toUpper ∧
      (Char.ofNat code).toUpper.toUpper = (Char.ofNat code).toUpper ∧
      ((Char.ofNat code).isUpper = true → (Char.ofNat code).toUpper = Char.ofNat code) ∧
      ((Char.ofNat code).isUpper = false → (Char.ofNat code).toLower = Char.ofNat code) := by
    decide +kernel
  obtain ⟨small, high, lowered, underscore, raised, again, capital, other⟩ := table c.toNat ascii
  rw [Char.ofNat_toNat] at small high lowered underscore raised again capital other
  exact ⟨small, high, lowered, underscore, raised, again, capital, other⟩

theorem upperChar_of_ascii (ascii : c.toNat < 0x80) : upperChar c = [c.toUpper] := by
  rw [upperChar, if_pos ascii]

/-- A text of ASCII is lowercased character by character. -/
theorem lower_of_ascii (ascii : IsAscii text) : lower text = text.map Char.toLower := by
  have after (before : Text) : lowerAfter before text = text.map Char.toLower := by
    induction text generalizing before with
    | nil => rfl
    | cons c rest inductionHypothesis =>
      obtain ⟨small, later⟩ := isAscii_cons.mp ascii
      have notSigma : (c == '\u03A3') = false := by
        refine beq_false_of_ne fun same => ?_
        rw [same] at small
        exact absurd small (by decide)
      rw [lowerAfter, notSigma, inductionHypothesis later, lowerChar, if_pos small]
      rfl
  exact after []

end FfiBindings.Text

namespace FfiBindings.Service

open Text (IsAscii isAscii_cons asciiForms)

variable {name : Text} {c : Char}

/-! ### Class names, character by character -/

/-- The class name of a text that follows others: whether a part begins with it decides if its first
character is capitalised. -/
def pascalFrom (begins : Bool) : Text → Text
  | [] => []
  | c :: rest =>
      if c == '_' then pascalFrom true rest
      else (if begins then Text.upperChar c else [c]) ++ pascalFrom false rest

theorem pascalFrom_underscore (begins : Bool) (rest : Text) :
    pascalFrom begins ('_' :: rest) = pascalFrom true rest := rfl

theorem pascalFrom_cons (other : c ≠ '_') (begins : Bool) (rest : Text) :
    pascalFrom begins (c :: rest) =
      (if begins then Text.upperChar c else [c]) ++ pascalFrom false rest := by
  rw [pascalFrom, if_neg (by simpa using other)]

/-- Cutting a text at its underscores and capitalising the parts is to begin one behind every
underscore. -/
theorem pascalCase_eq_pascalFrom (name : Text) : pascalCase name = pascalFrom true name := by
  have parts (text : Text) : ∃ part later, Text.split '_' text = part :: later ∧
      ∀ begins, pascalFrom begins text =
        (if begins then capitalise part else part) ++ later.flatMap capitalise := by
    induction text with
    | nil => exact ⟨[], [], rfl, fun begins => by cases begins <;> rfl⟩
    | cons c rest inductionHypothesis =>
      obtain ⟨part, later, cut, reads⟩ := inductionHypothesis
      rw [Text.split] at cut
      by_cases underscore : c = '_'
      · refine ⟨[], part :: later, ?_, fun begins => ?_⟩
        · rw [Text.split, Text.splitWhen, cut, if_pos (by simpa using underscore)]
        · rw [underscore, pascalFrom_underscore, reads]
          cases begins <;> rfl
      · refine ⟨c :: part, later, ?_, fun begins => ?_⟩
        · rw [Text.split, Text.splitWhen, cut, if_neg (by simpa using underscore)]
        · rw [pascalFrom_cons underscore, reads]
          cases begins <;> simp [capitalise]
  obtain ⟨part, later, cut, reads⟩ := parts name
  rw [reads, pascalCase, cut]
  rfl

/-- Where no part begins, nothing is changed. -/
theorem pascalFrom_false (single : '_' ∉ name) : pascalFrom false name = name := by
  induction name with
  | nil => rfl
  | cons c rest inductionHypothesis =>
    rw [List.mem_cons, not_or] at single
    rw [pascalFrom_cons (Ne.symm single.1), inductionHypothesis single.2]
    rfl

/-- A class name of ASCII begins with a character that is its own uppercase form, if it has any. -/
theorem pascalFrom_true_cases (ascii : IsAscii name) :
    pascalFrom true name = [] ∨
      ∃ c rest, pascalFrom true name = c :: rest ∧ Text.upperChar c = [c] := by
  induction name with
  | nil => exact .inl rfl
  | cons c rest inductionHypothesis =>
    obtain ⟨small, later⟩ := isAscii_cons.mp ascii
    by_cases underscore : c = '_'
    · rw [underscore, pascalFrom_underscore]
      exact inductionHypothesis later
    · right
      have forms := asciiForms small
      refine ⟨c.toUpper, pascalFrom false rest, ?_, ?_⟩
      · rw [pascalFrom_cons underscore, if_pos rfl, Text.upperChar_of_ascii small]
        rfl
      · rw [Text.upperChar_of_ascii forms.upperAscii, forms.again]

/-! ### Namespace segments -/

/-- Underscores before capitals leave a text in ASCII. -/
theorem isAscii_separateCapitals (ascii : IsAscii name) : IsAscii (separateCapitals name) := by
  intro d member
  obtain ⟨c, inName, isForm⟩ := List.mem_flatMap.mp member
  have ofForm : d = '_' ∨ d = c := by
    split at isForm
    · simpa using isForm
    · exact .inr (List.mem_singleton.mp isForm)
  rcases ofForm with rfl | rfl
  · decide
  · exact ascii d inName

/-- The segment that a base name of ASCII gives, which starts with its first character and has an
underscore before every later capital. -/
theorem snakeCase_cons (ascii : IsAscii (c :: name)) :
    snakeCase (c :: name) = c.toLower :: (separateCapitals name).map Char.toLower := by
  obtain ⟨small, later⟩ := isAscii_cons.mp ascii
  have whole : IsAscii (c :: separateCapitals name) :=
    isAscii_cons.mpr ⟨small, isAscii_separateCapitals later⟩
  rw [snakeCase]
  exact Text.lower_of_ascii whole

/-- What a segment of ASCII is made of: characters of ASCII, none of them a capital. -/
theorem lowered_of_mem_snakeCase (ascii : IsAscii name) {d : Char} (member : d ∈ snakeCase name) :
    d.toNat < 0x80 ∧ d.isUpper = false := by
  cases name with
  | nil => exact absurd member List.not_mem_nil
  | cons c rest =>
    obtain ⟨small, later⟩ := isAscii_cons.mp ascii
    rw [snakeCase_cons ascii] at member
    rcases List.mem_cons.mp member with rfl | inRest
    · exact ⟨(asciiForms small).ascii, (asciiForms small).lowered⟩
    · obtain ⟨before, inSeparated, rfl⟩ := List.mem_map.mp inRest
      have forms := asciiForms (isAscii_separateCapitals later before inSeparated)
      exact ⟨forms.ascii, forms.lowered⟩

theorem isAscii_snakeCase (ascii : IsAscii name) : IsAscii (snakeCase name) :=
  fun _ member => (lowered_of_mem_snakeCase ascii member).1

/-- There is nothing to separate where there are no capitals. -/
theorem separateCapitals_of_lowered (lowered : ∀ c ∈ name, c.isUpper = false) :
    separateCapitals name = name := by
  induction name with
  | nil => rfl
  | cons c rest inductionHypothesis =>
    obtain ⟨isLowered, later⟩ := List.forall_mem_cons.mp lowered
    rw [separateCapitals, List.flatMap_cons, ← separateCapitals, inductionHypothesis later, isLowered]
    rfl

/-- A name of ASCII without capitals is its own segment. -/
theorem snakeCase_of_lowered (ascii : IsAscii name) (lowered : ∀ c ∈ name, c.isUpper = false) :
    snakeCase name = name := by
  have kept : name.map Char.toLower = name := by
    conv_rhs => rw [← List.map_id name]
    exact List.map_congr_left fun c member => (asciiForms (ascii c member)).other (lowered c member)
  have unseparated : separateCapitals (name.drop 1) = name.drop 1 :=
    separateCapitals_of_lowered fun c member => lowered c (List.mem_of_mem_drop member)
  rw [snakeCase, unseparated, List.take_append_drop, Text.lower_of_ascii ascii, kept]

/-! ### Both together -/

/-- Underscores before capitals, and lowercasing these, make no difference to a class name. A capital
stays one: the underscore in front of it begins a part. -/
theorem pascalFrom_lowered (ascii : IsAscii name) (begins : Bool) :
    pascalFrom begins ((separateCapitals name).map Char.toLower) = pascalFrom begins name := by
  induction name generalizing begins with
  | nil => rfl
  | cons c rest inductionHypothesis =>
    obtain ⟨small, later⟩ := isAscii_cons.mp ascii
    have forms := asciiForms small
    rw [separateCapitals, List.flatMap_cons, ← separateCapitals]
    cases capital : c.isUpper with
    | true =>
      have notUnderscore : c ≠ '_' := by
        rintro rfl
        contradiction
      have low : c.toLower ≠ '_' := fun same => notUnderscore (forms.underscore.mp same)
      have raised : Text.upperChar c.toLower = [c] := by
        rw [Text.upperChar_of_ascii forms.ascii, forms.raised, forms.capital capital]
      have unchanged : Text.upperChar c = [c] := by
        rw [Text.upperChar_of_ascii small, forms.capital capital]
      calc pascalFrom begins (('_' :: c :: separateCapitals rest).map Char.toLower)
          = pascalFrom true (c.toLower :: (separateCapitals rest).map Char.toLower) := rfl
        _ = [c] ++ pascalFrom false rest := by
            rw [pascalFrom_cons low, if_pos rfl, raised, inductionHypothesis later]
        _ = pascalFrom begins (c :: rest) := by
            rw [pascalFrom_cons notUnderscore, unchanged, ite_self]
    | false =>
      have same : c.toLower = c := forms.other capital
      change pascalFrom begins (c.toLower :: (separateCapitals rest).map Char.toLower) = _
      rw [same]
      by_cases underscore : c = '_'
      · rw [underscore, pascalFrom_underscore, pascalFrom_underscore, inductionHypothesis later]
      · rw [pascalFrom_cons underscore, pascalFrom_cons underscore, inductionHypothesis later]

/-- The class name of the segment is the class name of the base name. -/
theorem pascalCase_snakeCase (ascii : IsAscii name) :
    pascalCase (snakeCase name) = pascalCase name := by
  rw [pascalCase_eq_pascalFrom, pascalCase_eq_pascalFrom]
  cases name with
  | nil => rfl
  | cons c rest =>
    obtain ⟨small, later⟩ := isAscii_cons.mp ascii
    have forms := asciiForms small
    rw [snakeCase_cons ascii]
    by_cases underscore : c = '_'
    · rw [forms.underscore.mpr underscore, underscore, pascalFrom_underscore, pascalFrom_underscore,
        pascalFrom_lowered later]
    · have low : c.toLower ≠ '_' := fun same => underscore (forms.underscore.mp same)
      rw [pascalFrom_cons low, pascalFrom_cons underscore, if_pos rfl, if_pos rfl,
        Text.upperChar_of_ascii forms.ascii, Text.upperChar_of_ascii small, forms.raised,
        pascalFrom_lowered later]

/-- A class name of ASCII is its own class name: it has no underscores, and begins with a capital or
with a character without case. -/
theorem pascalCase_pascalCase (ascii : IsAscii name) :
    pascalCase (pascalCase name) = pascalCase name := by
  have single := underscore_notMem_pascalCase name
  rw [pascalCase_eq_pascalFrom (pascalCase name)]
  rw [pascalCase_eq_pascalFrom name] at single ⊢
  rcases pascalFrom_true_cases ascii with empty | ⟨c, rest, shape, unchanged⟩
  · rw [empty]
    rfl
  · rw [shape, List.mem_cons, not_or] at single
    rw [shape, pascalFrom_cons (Ne.symm single.1), if_pos rfl, unchanged, pascalFrom_false single.2]
    rfl

/-- The forms of a base name of ASCII. The class name of the segment is that of the base name, and each
form is its own form. So base names of ASCII that share their segment share their class name and the file
that the class is written to. -/
theorem forms_of_ascii {name : Text} (ascii : IsAscii name) :
    pascalCase (snakeCase name) = pascalCase name ∧
      snakeCase (snakeCase name) = snakeCase name ∧
      pascalCase (pascalCase name) = pascalCase name ∧
      ∀ other : Text, IsAscii other →
        (Names.ofBaseName other).snake = (Names.ofBaseName name).snake →
          (Names.ofBaseName other).className = (Names.ofBaseName name).className ∧
            ∀ directory, classPath other directory = classPath name directory := by
  refine ⟨pascalCase_snakeCase ascii, ?_, pascalCase_pascalCase ascii, ?_⟩
  · exact snakeCase_of_lowered (isAscii_snakeCase ascii) fun c member =>
      (lowered_of_mem_snakeCase ascii member).2
  · intro other otherAscii sameSegment
    have segment : snakeCase other = snakeCase name := sameSegment
    have samePascal : pascalCase other = pascalCase name := by
      rw [← pascalCase_snakeCase otherAscii, segment, pascalCase_snakeCase ascii]
    have sameClass : (Names.ofBaseName other).className = (Names.ofBaseName name).className :=
      congrArg (· ++ ("Service" : Text)) samePascal
    refine ⟨sameClass, fun directory => ?_⟩
    unfold classPath Names.fileName
    rw [sameClass]

/-- Two base names with underscores, a digit and a run of capitals that share their segment. -/
theorem forms_of_ascii_sharing :
    IsAscii "_2HTTPLib__x" ∧ IsAscii "_2_h_t_t_p_lib__x" ∧
      snakeCase "_2HTTPLib__x" = "_2_h_t_t_p_lib__x" ∧
      pascalCase (snakeCase "_2HTTPLib__x") = pascalCase "_2HTTPLib__x" ∧
      pascalCase "_2HTTPLib__x" = "2HTTPLibX" ∧
      (Names.ofBaseName "_2_h_t_t_p_lib__x").className =
        (Names.ofBaseName "_2HTTPLib__x").className := by
  have ascii : IsAscii "_2HTTPLib__x" := by decide
  have otherAscii : IsAscii "_2_h_t_t_p_lib__x" := by decide
  have sameSegment : (Names.ofBaseName "_2_h_t_t_p_lib__x").snake =
      (Names.ofBaseName "_2HTTPLib__x").snake := by decide +kernel
  obtain ⟨throughSegment, -, -, sharing⟩ := forms_of_ascii ascii
  exact ⟨ascii, otherAscii, by decide +kernel, throughSegment, by decide +kernel,
    (sharing _ otherAscii sameSegment).1⟩

end FfiBindings.Service
