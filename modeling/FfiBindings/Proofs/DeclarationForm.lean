import FfiBindings.Proofs.Classification
import FfiBindings.Proofs.ClosingParenthesis
import FfiBindings.Source.Signature
import Mathlib.Data.Option.Basic

/-!
# The form of a declaration

A line declares a function when it is made of the word `func`, blanks, a name, a parameter list in
parentheses, perhaps with blanks before it, and any text behind the list. Exactly these lines are split
into parts, and the parts are those of the line. A line is made up in one way only: no blank is a word
character, so blanks and name end where they seem to, and the list ends at the first parenthesis that
closes no bracket of the list.

When kinds of lines are told apart these lines are taken for functions, since both ask for the same
blanks behind the keyword.

On a machine the search for the closing parenthesis counts in a word, and the parts are slices of the
bytes of a line. Such a split can fault: the counter can overflow, and a slice can begin or end inside a
character. On lines that are not too long it never does, since every cut is made beside a parenthesis, and
then it gives the same parts.
-/

namespace FfiBindings

namespace Text

/-- Blanks in front of another character are dropped. -/
theorem trimStart_append {front back : Text} (blank : ∀ c ∈ front, isBlank c = true)
    (first : ∀ c ∈ back.head?, isBlank c = false) : trimStart (front ++ back) = back := by
  rw [trimStart_append_of_blank blank]
  exact trimStart_eq_self first

/-- All blanks in front of another character are taken. -/
theorem takeWhile_blank {front back : Text} (blank : ∀ c ∈ front, isBlank c = true)
    (first : ∀ c ∈ back.head?, isBlank c = false) : (front ++ back).takeWhile isBlank = front := by
  rw [List.takeWhile_append_of_pos blank]
  cases back with
  | nil => simp
  | cons c rest => simp [first c (by simp)]

end Text

/-- The two texts that the bytes of a text spell on the sides of an offset, where none of its characters
is cut apart. -/
def Utf8.cutAt? : Text → Nat → Option (Text × Text)
  | [], offset => if offset = 0 then some ([], []) else none
  | c :: rest, offset =>
      if offset = 0 then some ([], c :: rest)
      else if offset < (encodeChar c).length then none
      else (cutAt? rest (offset - (encodeChar c).length)).map fun (front, back) => (c :: front, back)

/-- Texts in a row are cut apart at the end of the first one. -/
theorem Utf8.cutAt?_append (front back : Text) :
    cutAt? (front ++ back) (encode front).length = some (front, back) := by
  induction front with
  | nil => cases back <;> rfl
  | cons c front inductionHypothesis =>
    have length : (encode (c :: front)).length = (encodeChar c).length + (encode front).length := by
      rw [encode, List.flatMap_cons, List.length_append, ← encode]
    have behind : (encode (c :: front)).length ≠ 0 :=
      Nat.ne_of_gt (Nat.lt_of_lt_of_le (Nat.succ_pos _) (length_le_encode (c :: front)))
    rw [List.cons_append, cutAt?, if_neg behind, length, if_neg (by omega), Nat.add_sub_cancel_left,
      inductionHypothesis]
    rfl

namespace Bracket

/-- Where the search for the closing parenthesis gives an offset, the list can be cut on both sides of
the parenthesis there. -/
theorem cutsAt_of_closeOffset? {list : Text} {close : Nat} (found : closeOffset? list = some close) :
    ∃ inside after, splitAtClose 0 list = some (inside, after) ∧
      Utf8.CutsAt list close inside (")" ++ after) ∧
      Utf8.CutsAt list (close + 1) (inside ++ ")") after := by
  obtain ⟨⟨inside, after⟩, split, rfl⟩ := Option.map_eq_some_iff.mp found
  obtain ⟨rfl, -, -⟩ := covered_of_splitAtClose split
  have behind : (Utf8.encode (inside ++ ")")).length = (Utf8.encode inside).length + 1 := by
    rw [Utf8.encode_append, List.length_append]
    rfl
  have whole : inside ++ ')' :: after = (inside ++ ")") ++ after := by simp
  refine ⟨inside, after, split, Utf8.cutsAt_append _ _, ?_⟩
  rw [← behind, whole]
  exact Utf8.cutsAt_append _ _

end Bracket

namespace Source

open FfiBindings.Bracket (Balanced)

/-- How a line that declares a function begins: the blanks behind the keyword, the name, and the blanks
in front of the parenthesis that opens the parameter list. -/
structure DeclarationOpening where
  gap : Text
  name : Text
  space : Text
  gapNonempty : gap ≠ []
  gapBlank : ∀ c ∈ gap, Text.isBlank c = true
  nameNonempty : name ≠ []
  nameWord : ∀ c ∈ name, Text.isWord c = true
  spaceBlank : ∀ c ∈ space, Text.isBlank c = true

/-- A line that declares a function: its opening, the parameter list without its parentheses, and what
follows the list. -/
@[ext]
structure DeclarationLine extends DeclarationOpening where
  parameters : Text
  result : Text
  balanced : Balanced parameters

/-- The name of a declaration and what stands behind the parenthesis that opens its list. -/
def opened? (line : Text) : Option (Text × Text) := do
  let afterKeyword ← List.isPrefixOf? ("func" : Text) line
  guard (afterKeyword.head?.any Text.isBlank)
  let fromName := Text.trimStart afterKeyword
  let name := fromName.takeWhile Text.isWord
  guard (!name.isEmpty)
  let list ← List.isPrefixOf? ("(" : Text) (Text.trimStart (fromName.dropWhile Text.isWord))
  return (name, list)

/-- A line is opened, and then its list is split at the parenthesis that closes it. -/
theorem splitDeclaration?_eq (line : Text) :
    splitDeclaration? line = (opened? line).bind fun (name, list) =>
      (Bracket.splitAtClose 0 list).map fun (parameters, result) => ⟨name, parameters, result⟩ := by
  simp only [splitDeclaration?, opened?, Option.bind_eq_bind, Option.bind_assoc, Option.pure_def,
    Option.bind_some, Option.map_eq_bind, Function.comp_def]

namespace DeclarationOpening

variable (opening : DeclarationOpening) (list : Text)

/-- The opening as it is written, with its parenthesis. -/
def text : Text := "func" ++ opening.gap ++ opening.name ++ opening.space ++ "("

theorem text_append : opening.text ++ list =
    "func" ++ (opening.gap ++ (opening.name ++ (opening.space ++ '(' :: list))) := by
  unfold text
  simp only [List.append_assoc]
  rfl

/-- A name starts with no blank. -/
theorem first_of_name (rest : Text) :
    ∀ c ∈ (opening.name ++ rest).head?, Text.isBlank c = false := by
  rw [List.head?_append_of_ne_nil _ opening.nameNonempty]
  exact (Text.trimmed_of_word opening.nameWord).first

/-- What follows a name does not go on like one. -/
theorem exists_behind_name :
    ∃ c rest, opening.space ++ '(' :: list = c :: rest ∧ Text.isWord c = false := by
  cases behind : opening.space with
  | nil => exact ⟨'(', list, rfl, by decide⟩
  | cons c rest =>
    have blank : Text.isBlank c = true := opening.spaceBlank c (by simp [behind])
    refine ⟨c, rest ++ '(' :: list, rfl, ?_⟩
    by_contra word
    simp [Text.isBlank_of_isWord (by simpa using word)] at blank

/-- A line that begins so starts a function. -/
theorem classify_append : classify (opening.text ++ list) = .function := by
  obtain ⟨c, rest, gap⟩ := List.exists_cons_of_ne_nil opening.gapNonempty
  have blank : Text.isBlank c = true := opening.gapBlank c (by simp [gap])
  rw [text_append, gap, List.cons_append]
  exact classify_function _ blank

/-- A line that begins so is opened. -/
theorem opened?_append : opened? (opening.text ++ list) = some (opening.name, list) := by
  rw [text_append]
  obtain ⟨c, rest, behind, stops⟩ := opening.exists_behind_name list
  have keyword (after : Text) : List.isPrefixOf? ("func" : Text) ("func" ++ after) = some after :=
    List.isPrefixOf?_eq_some_iff_append_eq.mpr rfl
  have blank (after : Text) : (opening.gap ++ after).head?.any Text.isBlank = true := by
    rw [List.head?_append_of_ne_nil _ opening.gapNonempty,
      List.head?_eq_some_head opening.gapNonempty]
    exact opening.gapBlank _ (List.head_mem opening.gapNonempty)
  have fromName := Text.trimStart_append opening.gapBlank
    (opening.first_of_name (opening.space ++ '(' :: list))
  have named := Text.takeWhile_word rest opening.nameWord stops
  have afterName := Text.dropWhile_word rest opening.nameWord stops
  rw [← behind] at named afterName
  have readable : (!opening.name.isEmpty) = true := by simpa using opening.nameNonempty
  have toList : Text.trimStart (opening.space ++ '(' :: list) = '(' :: list :=
    Text.trimStart_append opening.spaceBlank (by simpa using (by decide : Text.isBlank '(' = false))
  have opened : List.isPrefixOf? ("(" : Text) ('(' :: list) = some list :=
    List.isPrefixOf?_eq_some_iff_append_eq.mpr rfl
  rw [opened?, keyword, Option.bind_eq_bind, Option.bind_some, guard_bind (blank _)]
  dsimp only
  rw [fromName, named, guard_bind readable, afterName, toList, opened]
  rfl

/-- A line that begins so is split where its list is closed. -/
theorem splitDeclaration?_append : splitDeclaration? (opening.text ++ list) =
    (Bracket.splitAtClose 0 list).map fun (parameters, result) =>
      ⟨opening.name, parameters, result⟩ := by
  rw [splitDeclaration?_eq, opened?_append, Option.bind_some]

end DeclarationOpening

namespace DeclarationLine

variable (line : DeclarationLine)

/-- The line behind its opening. -/
def list : Text := line.parameters ++ ")" ++ line.result

/-- The line as it is written. -/
def text : Text := line.toDeclarationOpening.text ++ line.list

/-- What the line tells of its function. -/
def head : Head := ⟨line.name, line.parameters, line.result⟩

theorem list_eq : line.list = line.parameters ++ ')' :: line.result := by
  rw [list, List.append_assoc]
  rfl

/-- A line of the form is split into its parts. -/
theorem splitDeclaration?_text : splitDeclaration? line.text = some line.head := by
  rw [text, DeclarationOpening.splitDeclaration?_append, list_eq, line.balanced.splitAtClose]
  rfl

/-- A line is of the form in one way only. The parts behind the gap are those that splitting gives, and
the blanks around the name are what is left of the line. -/
theorem text_injective : Function.Injective text := by
  intro first second same
  have parts : some first.head = some second.head := by
    rw [← first.splitDeclaration?_text, same, second.splitDeclaration?_text]
  obtain ⟨name, parameters, result⟩ := Head.mk.inj (Option.some.inj parts)
  have listed : first.list = second.list := by rw [list, list, parameters, result]
  rw [text, text, DeclarationOpening.text_append, DeclarationOpening.text_append,
    List.append_cancel_left_eq, listed] at same
  have gap : first.gap = second.gap := by
    rw [← Text.takeWhile_blank first.gapBlank (first.first_of_name _), same,
      Text.takeWhile_blank second.gapBlank (second.first_of_name _)]
  rw [gap, name, List.append_cancel_left_eq, List.append_cancel_left_eq] at same
  exact DeclarationLine.ext gap name (List.append_cancel_right same) parameters result

end DeclarationLine

/-- Only a line that begins like a declaration is opened: each part is what was taken at its place, and
what was taken is written there. -/
theorem exists_opening {text name list : Text} (opened : opened? text = some (name, list)) :
    ∃ opening : DeclarationOpening, opening.text ++ list = text ∧ opening.name = name := by
  unfold opened? at opened
  simp only [Option.bind_eq_bind, Option.bind_eq_some_iff, Option.pure_def, Option.some.injEq,
    Option.guard_eq_some', Prod.mk.injEq] at opened
  obtain ⟨afterKeyword, keyword, -, blank, -, named, rest, parenthesis, rfl, rfl⟩ := opened
  have whole := List.append_eq_of_isPrefixOf?_eq_some keyword
  have behindName :
      '(' :: rest = Text.trimStart ((Text.trimStart afterKeyword).dropWhile Text.isWord) :=
    List.append_eq_of_isPrefixOf?_eq_some parenthesis
  obtain ⟨c, after, rfl⟩ : ∃ c after, afterKeyword = c :: after :=
    List.exists_cons_of_ne_nil fun none => by simp [none] at blank
  let opening : DeclarationOpening :=
    { gap := (c :: after).takeWhile Text.isBlank
      name := (Text.trimStart (c :: after)).takeWhile Text.isWord
      space := ((Text.trimStart (c :: after)).dropWhile Text.isWord).takeWhile Text.isBlank
      gapNonempty := by simp [show Text.isBlank c = true from blank]
      gapBlank := fun _ member => List.mem_takeWhile_imp member
      nameNonempty := by simpa using named
      nameWord := fun _ member => List.mem_takeWhile_imp member
      spaceBlank := fun _ member => List.mem_takeWhile_imp member }
  refine ⟨opening, ?_, rfl⟩
  rw [DeclarationOpening.text_append, behindName, Text.trimStart, List.takeWhile_append_dropWhile,
    List.takeWhile_append_dropWhile, Text.trimStart, List.takeWhile_append_dropWhile, whole]

/-- Only lines of the form are split, and into their own parts. -/
theorem exists_declarationLine {text : Text} {head : Head}
    (parts : splitDeclaration? text = some head) :
    ∃ line : DeclarationLine, line.text = text ∧ line.head = head := by
  rw [splitDeclaration?_eq, Option.bind_eq_some_iff] at parts
  obtain ⟨⟨name, list⟩, opened, closed⟩ := parts
  obtain ⟨⟨parameters, result⟩, split, rfl⟩ := Option.map_eq_some_iff.mp closed
  obtain ⟨opening, rfl, rfl⟩ := exists_opening opened
  obtain ⟨whole, -, -⟩ := Bracket.covered_of_splitAtClose split
  let line : DeclarationLine :=
    { opening with parameters, result, balanced := Bracket.balanced_of_splitAtClose split }
  have listed : line.list = list := line.list_eq.trans whole.symm
  exact ⟨line, by rw [DeclarationLine.text, listed], rfl⟩

/-! ### Splitting by offsets -/

/-- What can go wrong where a line is split by offsets. -/
inductive SplitFault where
  | counter (fault : Bracket.CounterFault)
  /-- A slice would begin or end inside a character. -/
  | insideCharacter
  deriving Repr, DecidableEq

/-- Split a declaration line with the loop that counts brackets in 32 bits, and with slices of its bytes
in front of the offset that the loop gives and behind it. -/
def splitByOffsets (line : Text) : Except SplitFault (Option Head) :=
  match opened? line with
  | none => .ok none
  | some (name, list) =>
      match Bracket.search 0 0 list with
      | .error fault => .error (.counter fault)
      | .ok none => .ok none
      | .ok (some close) =>
          match Utf8.cutAt? list close, Utf8.cutAt? list (close + 1) with
          | some (parameters, _), some (_, result) => .ok (some ⟨name, parameters, result⟩)
          | _, _ => .error .insideCharacter

/-- Splitting by offsets gives the parts of a line that is not too long, and no fault. -/
theorem splitByOffsets_eq {text : Text} (short : (Utf8.encode text).length < 0x80000000) :
    splitByOffsets text = .ok (splitDeclaration? text) := by
  rw [splitDeclaration?_eq]
  unfold splitByOffsets
  cases opened : opened? text with
  | none => rfl
  | some found =>
    obtain ⟨name, list⟩ := found
    obtain ⟨opening, rfl, -⟩ := exists_opening opened
    have shortList : (Utf8.encode list).length < 0x80000000 := by
      rw [Utf8.encode_append, List.length_append] at short
      omega
    rw [Option.bind_some]
    dsimp only
    rw [Bracket.search_eq shortList]
    cases split : Bracket.splitAtClose 0 list with
    | none =>
      rw [Bracket.closeOffset?, split]
      rfl
    | some parts =>
      obtain ⟨parameters, result⟩ := parts
      obtain ⟨rfl, -, -⟩ := Bracket.covered_of_splitAtClose split
      have behind : (Utf8.encode parameters).length + 1 = (Utf8.encode (parameters ++ ")")).length := by
        rw [Utf8.encode_append, List.length_append]
        rfl
      have whole : parameters ++ ')' :: result = (parameters ++ ")") ++ result := by simp
      have front := Utf8.cutAt?_append parameters (')' :: result)
      have back := Utf8.cutAt?_append (parameters ++ ")") result
      rw [← behind, ← whole] at back
      rw [Bracket.closeOffset?, split, Option.map_some]
      dsimp only
      rw [front, back]
      rfl

/-- The form that splitting accepts, for lines of fewer than 2 ^ 31 bytes, as many as the counter of the
search can count. A line is split without a fault. It is split into a name, a parameter list and a rest
exactly when it is a line of the form with these parts, and these are the parts that the scan takes. It is
such a line in one way at most, and then it is taken for a function when kinds of lines are told apart.
Wherever a text begins like a declaration, its list can be cut off from its bytes; and where the list is
closed, the parameters and the rest can be cut off on the two sides of the closing parenthesis, and these
are the parts into which the text is split. -/
theorem splitByOffsets_iff_form (text : Text) (short : (Utf8.encode text).length < 0x80000000) :
    splitByOffsets text = .ok (splitDeclaration? text) ∧
      (∀ head, splitByOffsets text = .ok (some head) ↔
        ∃ line : DeclarationLine, line.text = text ∧ line.head = head) ∧
      (∀ first second : DeclarationLine, first.text = text → second.text = text → first = second) ∧
      (∀ line : DeclarationLine, line.text = text → classify text = .function) ∧
      ∀ (opening : DeclarationOpening) (list : Text), opening.text ++ list = text →
        Utf8.CutsAt text (Utf8.encode opening.text).length opening.text list ∧
        ∀ close, Bracket.search 0 0 list = .ok (some close) → ∃ parameters result,
          splitByOffsets text = .ok (some ⟨opening.name, parameters, result⟩) ∧
          Utf8.CutsAt list close parameters (")" ++ result) ∧
          Utf8.CutsAt list (close + 1) (parameters ++ ")") result := by
  have split := splitByOffsets_eq short
  refine ⟨split, fun head => ?_, ?_, ?_, ?_⟩
  · rw [split, Except.ok.injEq]
    refine ⟨exists_declarationLine, ?_⟩
    rintro ⟨line, rfl, rfl⟩
    exact line.splitDeclaration?_text
  · intro first second isFirst isSecond
    exact DeclarationLine.text_injective (isFirst.trans isSecond.symm)
  · rintro line rfl
    exact line.classify_append line.list
  · rintro opening list rfl
    refine ⟨Utf8.cutsAt_append _ _, fun close found => ?_⟩
    have shortList : (Utf8.encode list).length < 0x80000000 := by
      rw [Utf8.encode_append, List.length_append] at short
      omega
    rw [Bracket.search_eq shortList, Except.ok.injEq] at found
    obtain ⟨parameters, result, closed, front, back⟩ := Bracket.cutsAt_of_closeOffset? found
    refine ⟨parameters, result, ?_, front, back⟩
    rw [split, opening.splitDeclaration?_append, closed]
    rfl

/-- A declaration with a wide blank behind the keyword, letters of several bytes and nested brackets. -/
def measureLine : DeclarationLine where
  gap := "\u2003 "
  name := "Größe"
  space := "\t"
  parameters := "größen map[string][]int, je func(η int) (int, error)"
  result := " (Größe, error) \x7b"
  gapNonempty := by decide
  gapBlank := List.all_eq_true.mp (by decide)
  nameNonempty := by decide
  nameWord := List.all_eq_true.mp (by decide +kernel)
  spaceBlank := List.all_eq_true.mp (by decide)
  balanced := by decide

/-- The law at that declaration: it is split into its parts, no other line of the form is written like
it, and its bytes can be cut behind the opening and on the two sides of the parenthesis that closes the
list. -/
theorem splitByOffsets_iff_form_measure :
    (Utf8.encode measureLine.text).length < 0x80000000 ∧
      splitDeclaration? measureLine.text = some measureLine.head ∧
      splitByOffsets measureLine.text = .ok (some measureLine.head) ∧
      (∀ other : DeclarationLine, other.text = measureLine.text → other = measureLine) ∧
      classify measureLine.text = .function ∧
      Utf8.CutsAt measureLine.text 17 "func\u2003 Größe\t(" measureLine.list ∧
      Bracket.search 0 0 measureLine.list = .ok (some 55) ∧
      Utf8.CutsAt measureLine.list 55 measureLine.parameters (")" ++ measureLine.result) ∧
      Utf8.CutsAt measureLine.list 56 (measureLine.parameters ++ ")") measureLine.result := by
  have short : (Utf8.encode measureLine.text).length < 0x80000000 := by decide +kernel
  obtain ⟨same, split_iff, unique, isFunction, cuts⟩ :=
    splitByOffsets_iff_form measureLine.text short
  have split := (split_iff measureLine.head).mpr ⟨measureLine, rfl, rfl⟩
  obtain ⟨opened, closed⟩ := cuts measureLine.toDeclarationOpening measureLine.list rfl
  have offset : Bracket.search 0 0 measureLine.list = .ok (some 55) := by decide +kernel
  obtain ⟨parameters, result, parts, front, back⟩ := closed 55 offset
  obtain ⟨-, rfl, rfl⟩ := Head.mk.inj (Option.some.inj (Except.ok.inj (parts.symm.trans split)))
  exact ⟨short, Except.ok.inj (same.symm.trans split), split, fun other isOther => unique _ _ isOther rfl,
    isFunction measureLine rfl, opened, offset, front, back⟩

end Source

end FfiBindings
