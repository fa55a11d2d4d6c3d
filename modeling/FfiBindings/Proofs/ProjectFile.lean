import FfiBindings.Config.File
import FfiBindings.Proofs.Derivation
import FfiBindings.Proofs.Fields

/-!
# The project file reads back

The text of a project file is a heading and five fields, two of them in a mapping of their own. Its
tokens, its events and its parts are those of the fields, whatever texts they hold; so what is read from
it is the configuration it was written for.
-/

namespace FfiBindings.Config

open Markup (Document Token TokenKind ScalarStyle Mark Part printField printScalar spaces)
open Markup.Scanner (textLine nestedLine fieldTokens startsToken_of_isFieldName)

variable {service source directory libraryDirectory : Text}

/-- The text of a project file with the given texts in its fields. -/
def fileText (service source directory libraryDirectory : Text) : Text :=
  heading ++ printField 0 "service" service ++ printField 0 "source" source ++ "output:\n" ++
    printField 1 "dir" directory ++ printField 1 "lib_dir" libraryDirectory

/-- The heading without the mark of a comment and the line feed. -/
def headingText : Text := " Go-PHP FFI Service Configuration"

/-- The fields of a project file line by line. -/
def fieldLines (service source directory libraryDirectory : Text) : Text :=
  textLine 0 "service" service 0 (textLine 0 "source" source 0 (nestedLine "output" 2
    (textLine 2 "dir" directory 2 (textLine 2 "lib_dir" libraryDirectory 0 []))))

theorem fileText_eq (service source directory libraryDirectory : Text) :
    fileText service source directory libraryDirectory =
      '#' :: headingText ++ '\n' :: fieldLines service source directory libraryDirectory := by
  have first : heading = '#' :: headingText ++ ['\n'] := by decide
  have middle : ("output:\n" : Text) = ("output" : Text) ++ [':', '\n'] := by decide
  have between : (": " : Text) = [':', ' '] := by decide
  simp only [fileText, fieldLines, textLine, nestedLine, first, middle, printField, between]
  simp [spaces, Markup.indentStep]

/-- There is nothing in a project file that a document may not hold. -/
theorem isAdmitted_of_mem_fileText {c : Char}
    (member : c ∈ fileText service source directory libraryDirectory) :
    Markup.isAdmitted c = true := by
  have fixed {part : Text} (printed : part.all Markup.isPrintable = true) :
      ∀ c ∈ part, Markup.isPrintable c = true := List.all_eq_true.mp printed
  refine Markup.isAdmitted_of_isPrintable ?_
  simp only [fileText, List.mem_append] at member
  rcases member with ((((first | inService) | inSource) | output) | inDirectory) | inLibrary
  · exact fixed (by decide : heading.all Markup.isPrintable = true) c first
  · exact Markup.isPrintable_of_mem_printField (fixed (by decide)) inService
  · exact Markup.isPrintable_of_mem_printField (fixed (by decide)) inSource
  · exact fixed (by decide : ("output:\n" : Text).all Markup.isPrintable = true) c output
  · exact Markup.isPrintable_of_mem_printField (fixed (by decide)) inDirectory
  · exact Markup.isPrintable_of_mem_printField (fixed (by decide)) inLibrary

/-- The kinds of the tokens of a project file. -/
def fileKinds (service source directory libraryDirectory : Text)
    (serviceStyle sourceStyle directoryStyle libraryStyle : ScalarStyle) : List TokenKind :=
  .streamStart :: .blockMappingStart :: (fieldTokens "service" service serviceStyle ++
    (fieldTokens "source" source sourceStyle ++
      ([.key, .scalar "output" .plain, .value, .blockMappingStart] ++
        (fieldTokens "dir" directory directoryStyle ++
          (fieldTokens "lib_dir" libraryDirectory libraryStyle ++
            [.blockEnd, .blockEnd, .streamEnd])))))

/-- The tokens of a project file are those of its fields. -/
theorem exists_tokens (service source directory libraryDirectory : Text) :
    ∃ serviceStyle sourceStyle directoryStyle libraryStyle tokens,
      Markup.tokens (fileText service source directory libraryDirectory) = (tokens, none) ∧
      tokens.map (·.kind) = fileKinds service source directory libraryDirectory serviceStyle
        sourceStyle directoryStyle libraryStyle := by
  have unbroken : ∀ c ∈ headingText, (!Markup.isBreak c) = true := List.all_eq_true.mp (by decide)
  have headingSolid : ∀ c ∈ headingText, Markup.isBreak c = false := fun c member =>
    Bool.not_eq_true' _ |>.mp (unbroken c member)
  have atService := Markup.Scanner.between_start headingSolid
    (show Markup.Scanner.StartsToken (fieldLines service source directory libraryDirectory) from
      startsToken_of_isFieldName (by decide))
  obtain ⟨serviceStyle, scanner, toSource, atSource⟩ := atService.field (by decide) rfl
    (startsToken_of_isFieldName (by decide)) (Nat.le_refl 0)
  obtain ⟨sourceStyle, scanner, toOutput, atOutput⟩ := atSource.field (by decide) rfl
    (startsToken_of_isFieldName (by decide)) (Nat.le_refl 0)
  obtain ⟨scanner, toDirectory, atDirectory⟩ := atOutput.nested (by decide) rfl
    (startsToken_of_isFieldName (by decide))
  obtain ⟨directoryStyle, scanner, toLibrary, atLibrary⟩ := atDirectory.field (by decide) rfl
    (startsToken_of_isFieldName (by decide)) (Nat.le_refl 2)
  obtain ⟨libraryStyle, scanner, toEnd, atEnd⟩ := atLibrary.field (by decide) rfl
    (by rintro c ⟨⟩) (Nat.zero_le 2)
  obtain ⟨tokens, ends, kinds⟩ := atEnd.finish
  refine ⟨serviceStyle, sourceStyle, directoryStyle, libraryStyle, tokens, ?_, kinds⟩
  have admitted : (fileText service source directory libraryDirectory).takeWhile Markup.isAdmitted =
      fileText service source directory libraryDirectory :=
    List.takeWhile_eq_self_iff.mpr fun c => isAdmitted_of_mem_fileText
  have way : Markup.Scanner.LeadsTo 14 _ _ :=
    toSource.trans (toOutput.trans (toDirectory.trans (toLibrary.trans toEnd)))
  have enough : 14 ≤ (fileText service source directory libraryDirectory).length := by
    have headingLength : headingText.length = 33 := by decide
    rw [fileText_eq, List.length_append, List.length_cons]
    omega
  obtain ⟨fuel, size⟩ := Nat.exists_eq_add_of_le' enough
  rw [Markup.tokens, admitted, if_pos (beq_self_eq_true _), size, Nat.add_right_comm, fileText_eq, way,
    ends]

/-- The parts of a project file. -/
def fileParts (service source directory libraryDirectory : Text)
    (serviceStyle sourceStyle directoryStyle libraryStyle : ScalarStyle) : List Part :=
  [.mappingStart, .scalar none "service" .plain, .scalar none service serviceStyle,
    .scalar none "source" .plain, .scalar none source sourceStyle, .scalar none "output" .plain,
    .mappingStart, .scalar none "dir" .plain, .scalar none directory directoryStyle,
    .scalar none "lib_dir" .plain, .scalar none libraryDirectory libraryStyle, .mappingEnd,
    .mappingEnd]

/-- The document of a project file consists of its fields. -/
theorem exists_document (service source directory libraryDirectory : Text) :
    ∃ serviceStyle sourceStyle directoryStyle libraryStyle parts,
      Document.ofText (fileText service source directory libraryDirectory) =
        ⟨parts, [], none, false⟩ ∧
      parts.map (·.1) = fileParts service source directory libraryDirectory serviceStyle sourceStyle
        directoryStyle libraryStyle := by
  obtain ⟨serviceStyle, sourceStyle, directoryStyle, libraryStyle, tokens, read, kinds⟩ :=
    exists_tokens service source directory libraryDirectory
  obtain ⟨start, atService, isService, opens⟩ := Markup.yields_opening kinds
  obtain ⟨first, second, atSource, isSource, serviceEvents⟩ := Markup.yields_field isService start
    [.documentEnd, .document false]
  obtain ⟨third, fourth, atOutput, isOutput, sourceEvents⟩ := Markup.yields_field isSource start
    [.documentEnd, .document false]
  obtain ⟨fifth, inner, atDirectory, isDirectory, outputEvents⟩ := Markup.yields_nested isOutput start
    [.documentEnd, .document false]
  obtain ⟨sixth, seventh, atLibrary, isLibrary, directoryEvents⟩ := Markup.yields_field isDirectory
    inner [.blockPairs start, .documentEnd, .document false]
  obtain ⟨eighth, ninth, atClose, isClose, libraryEvents⟩ := Markup.yields_field isLibrary inner
    [.blockPairs start, .documentEnd, .document false]
  obtain ⟨close, atLast, isLast, closes⟩ := Markup.yields_close isClose inner
    [.blockPairs start, .documentEnd, .document false]
  obtain ⟨last, atEnd, isEnd, closesAll⟩ := Markup.yields_close isLast start
    [.documentEnd, .document false]
  obtain ⟨stop, ends⟩ := Markup.yields_end isEnd
  have whole := opens.trans (serviceEvents.trans (sourceEvents.trans (outputEvents.trans
    (directoryEvents.trans (libraryEvents.trans (closes.trans (closesAll.trans ends)))))))
  have size : tokens.length = 25 := by
    rw [← List.length_map (·.kind), kinds]
    rfl
  have derived : Markup.deriveAll none (8 * (tokens.length + 2)) Markup.defaultTags [.stream] tokens =
      (_, none) := Markup.deriveAll_of_yields whole (by omega)
  refine ⟨serviceStyle, sourceStyle, directoryStyle, libraryStyle,
    [(.mappingStart, start), (.scalar none "service" .plain, first),
      (.scalar none service serviceStyle, second), (.scalar none "source" .plain, third),
      (.scalar none source sourceStyle, fourth), (.scalar none "output" .plain, fifth),
      (.mappingStart, inner), (.scalar none "dir" .plain, sixth),
      (.scalar none directory directoryStyle, seventh), (.scalar none "lib_dir" .plain, eighth),
      (.scalar none libraryDirectory libraryStyle, ninth), (.mappingEnd, close),
      (.mappingEnd, last)], ?_, rfl⟩
  rw [Document.ofText, Markup.events, read]
  simp only [derived]
  rfl

/-! ### Reading the document -/

section Reading

variable {document : Document} {index : Nat} {mark : Mark} {text : Text} {style : ScalarStyle}
  {path : FieldPath} {after : Nat}

/-- A scalar is read as its text. -/
theorem readText_of_scalar (found : document.parts[index]? = some (.scalar none text style, mark))
    (expected : Expected) (path : FieldPath) :
    readText document expected path index = .ok (text, index + 1) := by
  have here : partAt document index = .ok (index, .scalar none text style, mark) := by
    simp [partAt, Document.resolve?, found]
  rw [readText, here]
  rfl

theorem readPath_of_scalar (found : document.parts[index]? = some (.scalar none text style, mark))
    (path : FieldPath) : readPath document path index = .ok (.ofText text, index + 1) := by
  rw [readPath, readText_of_scalar found]
  rfl

/-- Behind a name its field is read, and then the others. -/
theorem readFields_name {σ : Type} {readField : σ → Text → FieldPath → Nat → Except ReadError (σ × Nat)}
    {fuel : Nat} {fields next : σ}
    (found : document.parts[index]? = some (.scalar none text style, mark))
    (read : readField fields text (path ++ [some text]) (index + 1) = .ok (next, after)) :
    readFields document path readField (fuel + 1) fields index =
      readFields document path readField fuel next after := by
  have written : writtenName? document index = some text := by simp [writtenName?, found]
  rw [readFields, found]
  simp only [readText_of_scalar found, written]
  change (readField fields text (path ++ [some text]) (index + 1) >>= _) = _
  rw [read]
  rfl

theorem readFields_end {σ : Type} (found : document.parts[index]? = some (.mappingEnd, mark))
    (readField : σ → Text → FieldPath → Nat → Except ReadError (σ × Nat)) (fuel : Nat) (fields : σ) :
    readFields document path readField (fuel + 1) fields index = .ok (fields, index + 1) := by
  rw [readFields, found]

/-- A mapping is read from its fields. -/
theorem readMapping_of_fields {σ α : Type} {start fields : σ} {value : α} {expected : Expected}
    {readField : Mark → σ → Text → FieldPath → Nat → Except ReadError (σ × Nat)}
    {finish : Mark → σ → Except ReadError α}
    (found : document.parts[index]? = some (.mappingStart, mark))
    (read : readFields document path (readField mark) (document.parts.length + 1) start (index + 1) =
      .ok (fields, after))
    (finished : finish mark fields = .ok value) :
    readMapping document expected path start readField finish index = .ok (value, after) := by
  have here : partAt document index = .ok (index, .mappingStart, mark) := by
    simp [partAt, Document.resolve?, found]
  rw [readMapping, here]
  change (readFields document path (readField mark) (document.parts.length + 1) start (index + 1)
    >>= _) = _
  rw [read]
  change (finish mark fields >>= _) = _
  rw [finished]
  simp

theorem readOnce_first {α : Type} {read : Except ReadError (α × Nat)} {value : α}
    (isRead : read = .ok (value, after)) (name : Text) (owner : FieldPath) (mark : Mark) :
    readOnce none name owner mark read = .ok (some value, after) := by
  rw [isRead]
  rfl

/-! ### Fields -/

section Fields

variable {owner : FieldPath}

theorem readPlaceField_directory {libraryDirectory : Option Path}
    (found : document.parts[index]? = some (.scalar none text style, mark)) (start : Mark)
    (path : FieldPath) :
    readPlaceField document owner start ⟨none, libraryDirectory⟩ "dir" path index =
      .ok (⟨some (.ofText text), libraryDirectory⟩, index + 1) := by
  rw [readPlaceField, if_pos (beq_self_eq_true _)]
  simp only [readOnce_first (readPath_of_scalar found path)]
  rfl

theorem readPlaceField_libraryDirectory {directory : Option Path}
    (found : document.parts[index]? = some (.scalar none text style, mark)) (start : Mark)
    (path : FieldPath) :
    readPlaceField document owner start ⟨directory, none⟩ "lib_dir" path index =
      .ok (⟨directory, some (.ofText text)⟩, index + 1) := by
  rw [readPlaceField, if_neg (by decide), if_pos (beq_self_eq_true _)]
  simp only [readOnce_first (readPath_of_scalar found path)]
  rfl

theorem readField_service {source : Option Path} {output : Option OutputPlaces}
    (found : document.parts[index]? = some (.scalar none text style, mark)) (start : Mark)
    (path : FieldPath) :
    readField document start ⟨none, source, output⟩ "service" path index =
      .ok (⟨some text, source, output⟩, index + 1) := by
  rw [readField, if_pos (beq_self_eq_true _)]
  simp only [readOnce_first (readText_of_scalar found .text path)]
  rfl

theorem readField_source {service : Option Text} {output : Option OutputPlaces}
    (found : document.parts[index]? = some (.scalar none text style, mark)) (start : Mark)
    (path : FieldPath) :
    readField document start ⟨service, none, output⟩ "source" path index =
      .ok (⟨service, some (.ofText text), output⟩, index + 1) := by
  rw [readField, if_neg (by decide), if_pos (beq_self_eq_true _)]
  simp only [readOnce_first (readPath_of_scalar found path)]
  rfl

theorem readField_output {service : Option Text} {source : Option Path} {places : OutputPlaces}
    (start : Mark) (path : FieldPath) (read : readPlaces document path index = .ok (places, after)) :
    readField document start ⟨service, source, none⟩ "output" path index =
      .ok (⟨service, source, some places⟩, after) := by
  rw [readField, if_neg (by decide), if_neg (by decide), if_pos (beq_self_eq_true _)]
  simp only [readOnce_first read]
  rfl

end Fields

/-- A part of the document stands at its index, in some place. -/
theorem exists_part {contents : List Part} (shape : document.parts.map (·.1) = contents) {part : Part}
    (index : Nat) (isPart : contents[index]? = some part) :
    ∃ mark, document.parts[index]? = some (part, mark) := by
  rw [← shape, List.getElem?_map, Option.map_eq_some_iff] at isPart
  obtain ⟨⟨_, mark⟩, found, rfl⟩ := isPart
  exact ⟨mark, found⟩

variable {serviceStyle sourceStyle directoryStyle libraryStyle : ScalarStyle}

/-- The output places of a project file are read. -/
theorem readPlaces_file (shape : document.parts.map (·.1) = fileParts service source directory
      libraryDirectory serviceStyle sourceStyle directoryStyle libraryStyle) (path : FieldPath) :
    readPlaces document path 6 = .ok (⟨.ofText directory, .ofText libraryDirectory⟩, 12) := by
  obtain ⟨start, opens⟩ := exists_part shape 6 rfl
  obtain ⟨_, directoryName⟩ := exists_part shape 7 rfl
  obtain ⟨_, directoryText⟩ := exists_part shape 8 rfl
  obtain ⟨_, libraryName⟩ := exists_part shape 9 rfl
  obtain ⟨_, libraryText⟩ := exists_part shape 10 rfl
  obtain ⟨_, closes⟩ := exists_part shape 11 rfl
  have size : document.parts.length = 13 := by
    rw [← List.length_map (·.1), shape]
    rfl
  have fields : readFields document path (readPlaceField document path start)
      (document.parts.length + 1) ⟨none, none⟩ 7 =
      .ok (⟨some (.ofText directory), some (.ofText libraryDirectory)⟩, 12) := by
    rw [size, readFields_name directoryName (readPlaceField_directory directoryText start _),
      readFields_name libraryName (readPlaceField_libraryDirectory libraryText start _),
      readFields_end closes]
  exact readMapping_of_fields opens fields rfl

/-- The fields of a project file are read as a configuration. -/
theorem readConfig_file (shape : document.parts.map (·.1) = fileParts service source directory
      libraryDirectory serviceStyle sourceStyle directoryStyle libraryStyle) :
    readMapping document .config [] (⟨none, none, none⟩ : Fields) (readField document) ofFields 0 =
      .ok (⟨service, .ofText source, ⟨.ofText directory, .ofText libraryDirectory⟩⟩, 13) := by
  obtain ⟨start, opens⟩ := exists_part shape 0 rfl
  obtain ⟨_, serviceName⟩ := exists_part shape 1 rfl
  obtain ⟨_, serviceText⟩ := exists_part shape 2 rfl
  obtain ⟨_, sourceName⟩ := exists_part shape 3 rfl
  obtain ⟨_, sourceText⟩ := exists_part shape 4 rfl
  obtain ⟨_, outputName⟩ := exists_part shape 5 rfl
  obtain ⟨_, closes⟩ := exists_part shape 12 rfl
  have size : document.parts.length = 13 := by
    rw [← List.length_map (·.1), shape]
    rfl
  have fields : readFields document [] (readField document start) (document.parts.length + 1)
      ⟨none, none, none⟩ 1 =
      .ok (⟨some service, some (.ofText source),
        some ⟨.ofText directory, .ofText libraryDirectory⟩⟩, 13) := by
    rw [size, readFields_name serviceName (readField_service serviceText start _),
      readFields_name sourceName (readField_source sourceText start _),
      readFields_name outputName (readField_output start _ (readPlaces_file shape _)),
      readFields_end closes]
  exact readMapping_of_fields opens fields rfl

end Reading

/-- What is read from the text of a project file are the texts it was made from. -/
theorem parse_fileText (service source directory libraryDirectory : Text) :
    parse (fileText service source directory libraryDirectory) =
      .ok ⟨service, .ofText source, ⟨.ofText directory, .ofText libraryDirectory⟩⟩ := by
  obtain ⟨_, _, _, _, parts, isDocument, shape⟩ :=
    exists_document service source directory libraryDirectory
  have read := readConfig_file
    (show (Document.mk parts [] none false).parts.map (·.1) = _ from shape)
  rw [parse, isDocument, read]
  rfl

end FfiBindings.Config
