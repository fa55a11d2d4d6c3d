import FfiBindings.Source.Line
import FfiBindings.Proofs.Trimming

/-!
# What kinds of lines tell

A comment line tells its text without the blanks around it. In the other direction, a line that is
put together from a kind's own words is classified as that kind: a comment from its text, a marker
from its name, and a function from whatever follows the keyword.
-/

namespace FfiBindings.Text

/-- The code points of the blanks. -/
def blankCodes : List Nat :=
  List.range' 9 5 ++ List.range' 0x2000 11 ++
    [0x20, 0x85, 0xA0, 0x1680, 0x2028, 0x2029, 0x202F, 0x205F, 0x3000]

/-- Every blank is one of these. -/
theorem mem_blankCodes {c : Char} (blank : isBlank c = true) : c.toNat ∈ blankCodes := by
  simp only [isBlank, Bool.or_eq_true, Bool.and_eq_true, decide_eq_true_eq, beq_iff_eq] at blank
  simp only [blankCodes, List.mem_append, List.mem_range'_1, List.mem_cons, List.not_mem_nil]
  omega

/-- No blank is a word character. -/
theorem isBlank_of_isWord {c : Char} (word : isWord c = true) : isBlank c = false := by
  have table : ∀ code ∈ blankCodes, isWord (Char.ofNat code) = false := by decide +kernel
  by_contra blank
  have notWord := table c.toNat (mem_blankCodes (by simpa using blank))
  rw [Char.ofNat_toNat] at notWord
  exact Bool.false_ne_true (notWord.symm.trans word)

/-- A text of word characters is trimmed. -/
theorem trimmed_of_word {text : Text} (word : ∀ c ∈ text, isWord c = true) : Trimmed text :=
  trimmed_of_solid fun c member => isBlank_of_isWord (word c member)

/-- A word in front of another character is taken whole. -/
theorem takeWhile_word {word : Text} {c : Char} (rest : Text) (solid : ∀ d ∈ word, isWord d = true)
    (stops : isWord c = false) : (word ++ c :: rest).takeWhile isWord = word := by
  rw [List.takeWhile_append_of_pos solid, List.takeWhile_cons_of_neg (by simp [stops]),
    List.append_nil]

/-- What follows the word is left. -/
theorem dropWhile_word {word : Text} {c : Char} (rest : Text) (solid : ∀ d ∈ word, isWord d = true)
    (stops : isWord c = false) : (word ++ c :: rest).dropWhile isWord = c :: rest := by
  rw [List.dropWhile_append_of_pos solid, List.dropWhile_cons_of_neg (by simp [stops])]

end FfiBindings.Text

namespace FfiBindings.Source

/-- The text of a comment line is what follows the slashes, trimmed. -/
theorem exists_body_of_classify_comment {line text : Text}
    (isComment : classify line = .comment text) :
    ∃ body, List.isPrefixOf? ("//" : Text) line = some body ∧ Text.trim body = text := by
  unfold classify at isComment
  cases named : markerName? line with
  | some name => simp [named] at isComment
  | none =>
    cases commented : List.isPrefixOf? ("//" : Text) line with
    | some body =>
      simp only [named, commented] at isComment
      split at isComment
      · contradiction
      · exact ⟨body, rfl, LineKind.comment.inj isComment⟩
    | none =>
      simp only [named, commented] at isComment
      split at isComment <;> split at isComment <;> contradiction

/-- The text of a comment line has been trimmed. -/
theorem trimmed_of_classify_comment {line text : Text} (isComment : classify line = .comment text) :
    Text.Trimmed text := by
  obtain ⟨body, _, rfl⟩ := exists_body_of_classify_comment isComment
  exact Text.trimmed_trim body

/-- A condition that holds lets the reading go on. -/
theorem guard_bind {α : Type} {condition : Prop} [Decidable condition] (holds : condition)
    (next : Unit → Option α) : (guard condition >>= next) = next () := by
  rw [guard, if_pos holds]
  rfl

/-- A comment line with a blank after the slashes has the text behind it. -/
theorem classify_comment {text : Text} (trimmed : Text.trim text = text) :
    classify ("// " ++ text) = .comment text := by
  have behind : Text.trim (' ' :: text) = text :=
    (Text.trim_cons_of_isBlank text (by decide)).trans trimmed
  have noMarker : markerName? ("// " ++ text) = none := rfl
  have noDirective : isDirective ("// " ++ text) = false := rfl
  have body : List.isPrefixOf? ("//" : Text) ("// " ++ text) = some (' ' :: text) := rfl
  simp only [classify, noMarker, body, noDirective, behind]
  rfl

/-- A marker announces the word behind it. -/
theorem classify_marker {name : Text} (nonempty : name ≠ [])
    (word : ∀ c ∈ name, Text.isWord c = true) : classify ("//export " ++ name) = .marker name := by
  have behind : Text.trimStart (' ' :: name) = name :=
    Text.trimStart_eq_self (Text.trimmed_of_word word).first
  have whole : name.takeWhile Text.isWord = name := List.takeWhile_eq_self_iff.mpr word
  have after : List.isPrefixOf? ("//export" : Text) ("//export " ++ name) = some (' ' :: name) :=
    rfl
  have space : (' ' :: name).head?.any Text.isBlank = true :=
    (by decide : Text.isBlank ' ' = true)
  have readable : (!name.isEmpty) = true := by simpa using nonempty
  have announced : markerName? ("//export " ++ name) = some name := by
    rw [markerName?, after, Option.bind_eq_bind, Option.bind_some, guard_bind space]
    dsimp only
    rw [behind, whole, guard_bind readable]
    rfl
  simp only [classify, announced]

/-- The keyword with a blank behind it starts a function. -/
theorem classify_function {c : Char} (text : Text) (blank : Text.isBlank c = true) :
    classify ("func" ++ c :: text) = .function := by
  have noMarker : markerName? ("func" ++ c :: text) = none := rfl
  have noComment : List.isPrefixOf? ("//" : Text) ("func" ++ c :: text) = none := rfl
  have behind : List.isPrefixOf? ("func" : Text) ("func" ++ c :: text) = some (c :: text) := rfl
  simp only [classify, noMarker, noComment, behind, List.head?_cons, Option.any_some, blank, if_true]

/-- What a line with the beginning of a marker is: a marker if a name follows behind blanks, a comment if
the beginning goes on as a word, and else a directive. -/
theorem classify_export (rest : Text) :
    classify ("//export" ++ rest) =
      if rest.head?.any Text.isBlank && !((Text.trimStart rest).takeWhile Text.isWord).isEmpty then
        .marker ((Text.trimStart rest).takeWhile Text.isWord)
      else if rest.head?.any Text.isWord then .comment (Text.trim ("export" ++ rest))
      else .directive := by
  have behind : List.isPrefixOf? ("//export" : Text) ("//export" ++ rest) = some rest := rfl
  have body : List.isPrefixOf? ("//" : Text) ("//export" ++ rest) = some ("export" ++ rest) := rfl
  have addressed : isDirective ("//export" ++ rest) = !rest.head?.any Text.isWord := rfl
  generalize named : (Text.trimStart rest).takeWhile Text.isWord = name
  have announced : markerName? ("//export" ++ rest) =
      if rest.head?.any Text.isBlank && !name.isEmpty then some name else none := by
    rw [markerName?, behind, Option.bind_eq_bind, Option.bind_some]
    dsimp only
    rw [named]
    cases rest.head?.any Text.isBlank <;> cases name <;> rfl
  simp only [classify, announced, body, addressed]
  cases rest.head?.any Text.isBlank && !name.isEmpty <;>
    cases rest.head?.any Text.isWord <;> rfl

/-- An `//export` is a directive exactly if no name follows it, blanks passed over. -/
theorem classify_export_eq_directive_iff (rest : Text) :
    classify ("//export" ++ rest) = .directive ↔
      ∀ c ∈ (Text.trimStart rest).head?, Text.isWord c = false := by
  rw [classify_export]
  rcases rest with - | ⟨c, later⟩
  · simp [Text.trimStart]
  · by_cases blank : Text.isBlank c = true
    · have wordless : Text.isWord c = false := by
        by_contra word
        have notBlank := Text.isBlank_of_isWord (by simpa using word)
        exact Bool.false_ne_true (notBlank.symm.trans blank)
      cases Text.trimStart (c :: later) with
      | nil => simp [wordless]
      | cons d others => cases word : Text.isWord d <;> simp [blank, wordless, word]
    · have kept : Text.trimStart (c :: later) = c :: later :=
        Text.trimStart_eq_self (by simpa using blank)
      rw [kept]
      cases word : Text.isWord c <;> simp [blank, word]

/-- A directive is a `//go:` line, or it starts with `//export`. -/
theorem shape_of_classify_directive {line : Text} (isDirectiveLine : classify line = .directive) :
    ∃ rest, line = "//go:" ++ rest ∨ line = "//export" ++ rest := by
  unfold classify at isDirectiveLine
  cases named : markerName? line with
  | some name => simp [named] at isDirectiveLine
  | none =>
    cases commented : List.isPrefixOf? ("//" : Text) line with
    | none =>
      simp only [named, commented] at isDirectiveLine
      split at isDirectiveLine <;> split at isDirectiveLine <;> contradiction
    | some body =>
      simp only [named, commented] at isDirectiveLine
      split at isDirectiveLine
      · next addressed =>
        unfold isDirective at addressed
        rcases Bool.or_eq_true_iff.mp addressed with tool | announced
        · obtain ⟨rest, shape⟩ := List.isPrefixOf_iff_prefix.mp tool
          exact ⟨rest, .inl shape.symm⟩
        · split at announced
          · next rest behind =>
            exact ⟨rest, .inr (List.append_eq_of_isPrefixOf?_eq_some behind).symm⟩
          · contradiction
      · contradiction

/-- Only an empty line is blank once it is trimmed. -/
theorem eq_nil_of_classify_blank {line : Text} (isBlankLine : classify line = .blank) : line = [] := by
  unfold classify at isBlankLine
  split at isBlankLine
  · contradiction
  · split at isBlankLine
    · split at isBlankLine <;> contradiction
    · split at isBlankLine
      · split at isBlankLine <;> contradiction
      · split at isBlankLine
        · next empty => exact List.isEmpty_iff.mp empty
        · contradiction

end FfiBindings.Source
