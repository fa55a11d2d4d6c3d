import FfiBindings.Proofs.Descriptors
import Mathlib.Data.List.Chain

/-!
# Well-formed descriptors

A service class is written from descriptors without another look at them. Whatever a source holds, the
functions that are found in it have words for names, no two the same, and comments on one line. Their
parameters are named by single fields, and types are fields joined by single spaces. A result is never
empty and never reaches into a body. The functions stand in the order of their lines.

Each of these facts comes from the one step of the scan that cuts the field out. Only the different
names and the order of the lines come from the pass as a whole.
-/

namespace FfiBindings.Text

/-- Blanks stand in a text one by one, and all of them are spaces. -/
structure SingleSpaced (text : Text) : Prop where
  spaces : ∀ c ∈ text, isBlank c = true → c = ' '
  apart : text.IsChain fun c d => isBlank c = false ∨ isBlank d = false

/-- Characters of which none is blank stand one by one. -/
theorem singleSpaced_of_solid {text : Text} (solid : ∀ c ∈ text, isBlank c = false) :
    SingleSpaced text := by
  constructor
  · intro c member blank
    rw [solid c member] at blank
    contradiction
  · induction text with
    | nil => exact .nil
    | cons c rest inductionHypothesis =>
      have tail := inductionHypothesis fun d member => solid d (List.mem_cons_of_mem c member)
      exact List.isChain_cons.mpr ⟨fun _ _ => .inl (solid c List.mem_cons_self), tail⟩

/-- A space between two texts that do not touch it with a blank keeps the blanks single. -/
theorem SingleSpaced.append_space {front back : Text} (first : SingleSpaced front)
    (second : SingleSpaced back) (ends : ∀ c ∈ front.getLast?, isBlank c = false)
    (starts : ∀ c ∈ back.head?, isBlank c = false) : SingleSpaced (front ++ ' ' :: back) := by
  constructor
  · intro c member blank
    rcases List.mem_append.mp member with inFront | behind
    · exact first.spaces c inFront blank
    · rcases List.mem_cons.mp behind with rfl | inBack
      · rfl
      · exact second.spaces c inBack blank
  · apply List.isChain_append.mpr
    refine ⟨first.apart, List.isChain_cons.mpr ⟨?_, second.apart⟩, ?_⟩
    · intro d isFirst
      exact .inr (starts d isFirst)
    · intro c isLast d _
      exact .inl (ends c isLast)

/-- Words joined by single spaces hold no other blanks. -/
theorem singleSpaced_join {words : List Text} (nonempty : ∀ word ∈ words, word ≠ [])
    (solid : ∀ word ∈ words, ∀ c ∈ word, isBlank c = false) : SingleSpaced (join " " words) := by
  induction words with
  | nil => exact singleSpaced_of_solid (List.forall_mem_nil _)
  | cons word rest inductionHypothesis =>
    have wordSolid := solid word List.mem_cons_self
    cases rest with
    | nil => exact singleSpaced_of_solid wordSolid
    | cons next later =>
      have restNonempty : ∀ other ∈ next :: later, other ≠ [] :=
        fun other member => nonempty other (List.mem_cons_of_mem word member)
      have restSolid : ∀ other ∈ next :: later, ∀ c ∈ other, isBlank c = false :=
        fun other member => solid other (List.mem_cons_of_mem word member)
      have restTrimmed : Trimmed (join " " (next :: later)) :=
        trimmed_join " " restNonempty fun other member => trimmed_of_solid (restSolid other member)
      have whole : join " " (word :: next :: later) = word ++ ' ' :: join " " (next :: later) := by
        simp [join]
      rw [whole]
      apply (singleSpaced_of_solid wordSolid).append_space (inductionHypothesis restNonempty restSolid)
      · intro c isLast
        exact wordSolid c (List.mem_of_getLast? isLast)
      · exact restTrimmed.first

end FfiBindings.Text

namespace FfiBindings.Source

open Text (isBlank isWord Trimmed SingleSpaced)

/-- A parameter as the service class takes it: a name without blanks or commas, and a type without
commas whose words are parted by single spaces. -/
structure Parameter.WellFormed (parameter : Parameter) : Prop where
  name_nonempty : parameter.name ≠ []
  name_solid : ∀ c ∈ parameter.name, isBlank c = false
  name_whole : ',' ∉ parameter.name
  type_nonempty : parameter.type ≠ []
  type_trimmed : Trimmed parameter.type
  type_whole : ',' ∉ parameter.type
  type_spaced : SingleSpaced parameter.type

/-- A function as the service class takes it, found in a source of so many lines. Its declaration cannot
stand on the first line, where no marker would be above it. -/
structure ExportedFunction.WellFormed (lineCount : Nat) (function : ExportedFunction) : Prop where
  name_nonempty : function.name ≠ []
  name_word : ∀ c ∈ function.name, isWord c = true
  comment_trimmed : Trimmed function.comment
  comment_unbroken : '\n' ∉ function.comment
  parameters : ∀ parameter ∈ function.parameters, parameter.WellFormed
  result_nonempty : function.result ≠ []
  result_trimmed : Trimmed function.result
  result_bodiless : '\x7b' ∉ function.result
  line_low : 2 ≤ function.line
  line_high : function.line ≤ lineCount

/-- Dropping a character at one end adds none. -/
theorem mem_of_mem_dropFirst {c d : Char} {text : Text} (member : d ∈ dropFirst c text) : d ∈ text := by
  cases text with
  | nil => exact member
  | cons first rest =>
    rw [dropFirst] at member
    split at member
    · exact List.mem_cons_of_mem first member
    · exact member

theorem mem_of_mem_dropLast {c d : Char} {text : Text} (member : d ∈ dropLast c text) : d ∈ text := by
  unfold dropLast at member
  split at member
  · exact (List.dropLast_subset text) member
  · exact member

/-- A result is trimmed last of all and replaced where nothing is left of it. It was cut off before the
body. -/
theorem wellFormed_parseResult (text : Text) :
    parseResult text ≠ [] ∧ Trimmed (parseResult text) ∧ '\x7b' ∉ parseResult text := by
  unfold parseResult
  dsimp only
  split
  · exact ⟨by decide, (Text.trim_eq_self_iff _).mp (by decide), by decide⟩
  · next nonempty =>
    refine ⟨fun empty => nonempty (List.isEmpty_iff.mpr empty), Text.trimmed_trim _, ?_⟩
    intro member
    have inDeclared := mem_of_mem_dropFirst (mem_of_mem_dropLast (Text.mem_of_mem_trim member))
    have kept := List.mem_takeWhile_imp (Text.mem_of_mem_trim inDeclared)
    exact absurd rfl (bne_iff_ne.mp kept)

/-- The parameters of a list are well formed: names and types are made of fields of its segments. -/
theorem wellFormed_of_parseParameters {list function : Text} {line : Nat}
    {parameters : List Parameter} (parsed : parseParameters list function line = .ok parameters)
    {parameter : Parameter} (member : parameter ∈ parameters) : parameter.WellFormed := by
  have isFirst : parameter.name ∈ firstFields list :=
    names_of_parseParameters parsed ▸ List.mem_map_of_mem member
  obtain ⟨nonempty, solid, whole⟩ := solid_of_mem_firstFields isFirst
  obtain ⟨piece, cut, name, words, fields, someWords, isType⟩ :=
    exists_piece_of_type (resolveTypes_of_parseParameters parsed) member
  have isField : ∀ word ∈ words, word ∈ Text.fields piece := by
    intro word isWord
    rw [fields]
    exact List.mem_cons_of_mem name isWord
  have wordNonempty : ∀ word ∈ words, word ≠ [] :=
    fun word isWord => Text.ne_nil_of_mem_fields (isField word isWord)
  have wordSolid : ∀ word ∈ words, ∀ c ∈ word, isBlank c = false :=
    fun word isWord c => Text.solid_of_mem_fields (isField word isWord)
  have wordWhole : ∀ word ∈ words, ',' ∉ word := by
    intro word isWord comma
    have inPiece := Text.mem_of_mem_fields (isField word isWord) comma
    have kept := Text.kept_of_mem_splitWhen cut inPiece
    contradiction
  refine ⟨nonempty, solid, whole, ?_, ?_, ?_, ?_⟩ <;> rw [isType]
  · exact Text.join_ne_nil " " someWords wordNonempty
  · exact Text.trimmed_join " " wordNonempty fun word isWord =>
      Text.trimmed_of_solid (wordSolid word isWord)
  · exact Text.not_mem_join (by decide) wordWhole
  · exact Text.singleSpaced_join wordNonempty wordSolid

/-- What a declared line describes is well formed. -/
theorem DescribedAt.wellFormed {lines : List Text} (whole : ∀ line ∈ lines, '\n' ∉ line) {index : Nat}
    {head : Head} {function : ExportedFunction} (described : DescribedAt lines index head function) :
    function.WellFormed lines.length := by
  obtain ⟨⟨isFunction, marker, above, -⟩, parts⟩ := of_declared described.declared
  have inside : index < lines.length := lt_length_of_isPassedOver_eq_false (stops_of_function isFunction)
  obtain ⟨resultNonempty, resultTrimmed, bodiless⟩ := wellFormed_parseResult head.result
  constructor
  case name_nonempty =>
    rw [described.name]
    exact (word_of_splitDeclaration? parts).1
  case name_word => exact described.word_of_name
  case comment_trimmed =>
    rw [described.comment]
    exact Text.trimmed_trim _
  case comment_unbroken =>
    rw [described.comment]
    exact unbroken_commentBefore whole index
  case parameters =>
    intro parameter member
    exact wellFormed_of_parseParameters described.parameters member
  case result_nonempty => rwa [described.result]
  case result_trimmed => rwa [described.result]
  case result_bodiless => rwa [described.result]
  case line_low =>
    rw [described.line]
    omega
  case line_high =>
    rw [described.line]
    omega

/-- Every function of an extraction is well formed, no two bear one name, and they stand on strictly
increasing lines. -/
theorem wellFormed_of_extract (source : Text) (extraction : Extraction)
    (extracted : extract source = .ok extraction) :
    (extraction.functions.map (·.name)).Nodup ∧
      (extraction.functions.map (·.line)).Pairwise (· < ·) ∧
      ∀ function ∈ extraction.functions, function.WellFormed (Text.lines source).length := by
  refine ⟨nodup_names extracted, ?_, ?_⟩
  · obtain ⟨-, described, -⟩ := found_of_extract extracted
    rw [lines_of_described described]
    exact declarationsBefore_sorted _
  · intro function member
    obtain ⟨index, head, described⟩ := exists_describedAt extracted member
    exact described.wellFormed fun line isLine => Text.unbroken_of_mem_lines isLine

/-- A source whose first declaration has tabs, spare spaces, a shared type and two results. -/
def spaced : Text :=
  "// adds\n//   two  numbers \n//export Add\n\n" ++
    "func Add( a,b  unsigned\tint, m map[string]int ) ( int, error ) \x7b\n\x7d\n" ++
    "//export Tick\nfunc Tick()\n"

/-- What that source holds. -/
def spacedExtraction : Extraction :=
  { functions := [
      { name := "Add", comment := "adds two  numbers",
        parameters := [⟨"a", "unsigned int"⟩, ⟨"b", "unsigned int"⟩, ⟨"m", "map[string]int"⟩],
        result := "int, error", line := 5 },
      { name := "Tick", comment := "", parameters := [], result := "void", line := 8 }]
    skipped := [] }

/-- The law at that source. -/
theorem wellFormed_of_extract_spaced :
    extract spaced = .ok spacedExtraction ∧
      (spacedExtraction.functions.map (·.name)).Nodup ∧
      (spacedExtraction.functions.map (·.line)).Pairwise (· < ·) ∧
      ∀ function ∈ spacedExtraction.functions, function.WellFormed (Text.lines spaced).length := by
  have found : extract spaced = .ok spacedExtraction := rfl
  exact ⟨found, wellFormed_of_extract spaced spacedExtraction found⟩

end FfiBindings.Source
