import FfiBindings.Proofs.Cutting
import FfiBindings.Proofs.DeclarationForm
import FfiBindings.Proofs.Extraction
import FfiBindings.Proofs.Pieces
import Mathlib.Data.List.Nodup

/-!
# What descriptors are made of

Every function of a successful extraction is what one declared line describes, and each of its
fields is told from that line and the ones above. Its name is a word. Its parameters bear the first
fields of the segments between the commas, in order, and nothing is asked of these names beyond
that. Its comment stays on one line, as the texts of comment lines do.
-/

namespace FfiBindings.Source

/-- A function is what a declared line describes: its fields, each told from the parts of the line
or from the lines above. -/
structure DescribedAt (lines : List Text) (index : Nat) (head : Head)
    (function : ExportedFunction) : Prop where
  declared : declared? lines index = some head
  name : function.name = head.name
  comment : function.comment = commentBefore lines index
  parameters : parseParameters head.parameters head.name (index + 1) = .ok function.parameters
  result : function.result = parseResult head.result
  line : function.line = index + 1

/-- What a declaration describes has the fields that its line gives. -/
theorem describedAt_of_describe {lines : List Text} {index : Nat} {head : Head}
    {function : ExportedFunction} (declared : declared? lines index = some head)
    (described : describe lines ⟨index, head⟩ = .ok function) :
    DescribedAt lines index head function := by
  unfold describe at described
  cases parsed : parseParameters head.parameters head.name (index + 1) with
  | error error => simp [parsed, bind, Except.bind] at described
  | ok parameters =>
    simp only [parsed, bind, Except.bind, pure, Except.pure, Except.ok.injEq] at described
    subst described
    exact ⟨declared, rfl, rfl, parsed, rfl, rfl⟩

/-- Every function of an extraction is what some declared line describes. -/
theorem exists_describedAt {source : Text} {extraction : Extraction} {function : ExportedFunction}
    (extracted : extract source = .ok extraction) (member : function ∈ extraction.functions) :
    ∃ index head, DescribedAt (Text.lines source) index head function := by
  obtain ⟨_, described, _⟩ := found_of_extract extracted
  obtain ⟨⟨index, head⟩, isDeclaration, here⟩ := exists_declaration_of_mem described member
  have declared := (mem_declarationsBefore_iff.mp isDeclaration).2
  exact ⟨index, head, describedAt_of_describe declared here⟩

/-- The functions of an extraction bear different names: a name that was met before is refused.
Two functions of one name would be the same function, and no line describes two. -/
theorem nodup_names {source : Text} {extraction : Extraction}
    (extracted : extract source = .ok extraction) : (extraction.functions.map (·.name)).Nodup := by
  obtain ⟨clean, described, _⟩ := found_of_extract extracted
  have increasing : (extraction.functions.map (·.line)).Pairwise (· < ·) := by
    rw [lines_of_described described]
    exact declarationsBefore_sorted _
  have distinctLines : (extraction.functions.map (·.line)).Nodup := increasing.imp Nat.ne_of_lt
  refine distinctLines.of_map.map_on fun left leftMember right rightMember same => ?_
  exact unique_of_clean (fun index _ => clean index) described leftMember rightMember same

/-- The name in a declaration is a word. -/
theorem word_of_splitDeclaration? {line : Text} {head : Head}
    (parts : splitDeclaration? line = some head) :
    head.name ≠ [] ∧ ∀ c ∈ head.name, Text.isWord c = true := by
  obtain ⟨line, -, rfl⟩ := exists_declarationLine parts
  exact ⟨line.nameNonempty, line.nameWord⟩

/-- Resolving the types of some segments, one after another. -/
theorem resolveTypes_cons_inv {segment : Segment} {rest : List Segment}
    {parameters : List Parameter} (resolved : resolveTypes (segment :: rest) = .ok parameters) :
    ∃ type others, sharedType? (segment :: rest) = some type ∧ resolveTypes rest = .ok others ∧
      parameters = ⟨segment.name, type⟩ :: others := by
  unfold resolveTypes at resolved
  split at resolved
  · contradiction
  · next type shared =>
    cases later : resolveTypes rest with
    | error error => simp [later, bind, Except.bind] at resolved
    | ok others =>
      simp only [later, bind, Except.bind, pure, Except.pure, Except.ok.injEq] at resolved
      exact ⟨type, others, shared, rfl, resolved.symm⟩

/-- Types are shared without a change to the names. -/
theorem names_of_resolveTypes {segments : List Segment} {parameters : List Parameter}
    (resolved : resolveTypes segments = .ok parameters) :
    parameters.map (·.name) = segments.map (·.name) := by
  induction segments generalizing parameters with
  | nil =>
    cases resolved
    rfl
  | cons segment rest inductionHypothesis =>
    obtain ⟨type, others, -, later, rfl⟩ := resolveTypes_cons_inv resolved
    rw [List.map_cons, List.map_cons, inductionHypothesis later]

/-- What a segment says. -/
theorem Segment.parse?_inv {text : Text} {segment : Segment}
    (parsed : Segment.parse? text = some segment) :
    ∃ words, Text.fields text = segment.name :: words ∧
      ∀ type, segment.type = some type ↔ words ≠ [] ∧ type = Text.join " " words := by
  unfold Segment.parse? at parsed
  split at parsed
  · contradiction
  · next name shape =>
    obtain rfl := Option.some.inj parsed
    exact ⟨[], shape, by simp⟩
  · next name words notBare shape =>
    obtain rfl := Option.some.inj parsed
    have someWords : words ≠ [] := notBare
    exact ⟨words, shape, fun type => by simp [someWords, eq_comm]⟩

/-- The type that a segment shares is one that is stated. -/
theorem exists_of_sharedType? {segments : List Segment} {type : Text}
    (shared : sharedType? segments = some type) : ∃ segment ∈ segments, segment.type = some type := by
  induction segments with
  | nil => contradiction
  | cons segment rest inductionHypothesis =>
    cases own : segment.type with
    | some stated =>
      have isOwn : stated = type := by simpa [sharedType?, own] using shared
      exact ⟨segment, List.mem_cons_self, own.trans (congrArg some isOwn)⟩
    | none =>
      have later : sharedType? rest = some type := by simpa [sharedType?, own] using shared
      obtain ⟨other, member, states⟩ := inductionHypothesis later
      exact ⟨other, List.mem_cons_of_mem segment member, states⟩

/-- Every type is what some piece says behind its first field. -/
theorem exists_piece_of_type {pieces : List Text} {parameters : List Parameter}
    (resolved : resolveTypes (pieces.filterMap Segment.parse?) = .ok parameters)
    {parameter : Parameter} (member : parameter ∈ parameters) :
    ∃ piece ∈ pieces, ∃ name words, Text.fields piece = name :: words ∧ words ≠ [] ∧
      parameter.type = Text.join " " words := by
  have stated : ∀ segments : List Segment, ∀ parameters, resolveTypes segments = .ok parameters →
      ∀ parameter ∈ parameters, ∃ segment ∈ segments, segment.type = some parameter.type := by
    intro segments
    induction segments with
    | nil =>
      intro parameters resolved parameter member
      cases resolved
      contradiction
    | cons segment rest inductionHypothesis =>
      intro parameters resolved parameter member
      obtain ⟨type, others, shared, later, rfl⟩ := resolveTypes_cons_inv resolved
      rcases List.mem_cons.mp member with rfl | other
      · exact exists_of_sharedType? shared
      · obtain ⟨found, isLater, states⟩ := inductionHypothesis others later parameter other
        exact ⟨found, List.mem_cons_of_mem segment isLater, states⟩
  obtain ⟨segment, isSegment, states⟩ := stated _ _ resolved parameter member
  obtain ⟨piece, isPiece, parsed⟩ := List.mem_filterMap.mp isSegment
  obtain ⟨words, shape, stated_iff⟩ := Segment.parse?_inv parsed
  obtain ⟨someWords, isType⟩ := (stated_iff _).mp states
  exact ⟨piece, isPiece, segment.name, words, shape, someWords, isType⟩

/-- Parameters are the segments of their list with the types resolved. -/
theorem resolveTypes_of_parseParameters {list function : Text} {line : Nat}
    {parameters : List Parameter} (parsed : parseParameters list function line = .ok parameters) :
    resolveTypes (segments list) = .ok parameters := by
  unfold parseParameters at parsed
  split at parsed
  · next resolved => rwa [← Except.ok.inj parsed]
  · contradiction

/-- What stands first in each segment of a parameter list, in order. Blank segments have no first
field. -/
def firstFields (list : Text) : List Text :=
  (Text.split ',' list).filterMap fun segment => (Text.fields segment).head?

/-- The segments of a list are named by their first fields. -/
theorem names_of_segments (list : Text) : (segments list).map (·.name) = firstFields list := by
  rw [segments, firstFields, List.map_filterMap]
  refine List.filterMap_congr fun segment _ => ?_
  unfold Segment.parse?
  split <;> simp_all

/-- The parameters of a list bear the first fields of its segments, each segment one parameter. -/
theorem names_of_parseParameters {list function : Text} {line : Nat} {parameters : List Parameter}
    (parsed : parseParameters list function line = .ok parameters) :
    parameters.map (·.name) = firstFields list := by
  rw [names_of_resolveTypes (resolveTypes_of_parseParameters parsed), names_of_segments]

namespace DescribedAt

variable {lines : List Text} {index : Nat} {head : Head} {function : ExportedFunction}

/-- The name of a function is made of word characters. -/
theorem word_of_name (described : DescribedAt lines index head function) :
    ∀ c ∈ function.name, Text.isWord c = true :=
  described.name ▸ (word_of_splitDeclaration? (of_declared described.declared).2).2

/-- The parameters of a function bear the first fields of its list. -/
theorem parameterNames (described : DescribedAt lines index head function) :
    function.parameters.map (·.name) = firstFields head.parameters :=
  names_of_parseParameters described.parameters

end DescribedAt

/-- A first field is not empty and holds neither blanks nor commas. -/
theorem solid_of_mem_firstFields {list field : Text} (member : field ∈ firstFields list) :
    field ≠ [] ∧ (∀ c ∈ field, Text.isBlank c = false) ∧ ',' ∉ field := by
  obtain ⟨segment, cut, isFirst⟩ := List.mem_filterMap.mp member
  have isField : field ∈ Text.fields segment := List.mem_of_mem_head? isFirst
  refine ⟨Text.ne_nil_of_mem_fields isField, fun c => Text.solid_of_mem_fields isField, ?_⟩
  intro comma
  have kept := Text.kept_of_mem_splitWhen cut (Text.mem_of_mem_fields isField comma)
  contradiction

/-- The text of a line stays on that line. -/
theorem unbroken_textAt (lines : List Text) (whole : ∀ line ∈ lines, '\n' ∉ line) (index : Nat) :
    '\n' ∉ textAt lines index := by
  intro member
  have inLine : '\n' ∈ lines.getD index [] := Text.mem_of_mem_trim member
  by_cases inside : index < lines.length
  · rw [List.getD_eq_getElem _ _ inside] at inLine
    exact whole _ (List.getElem_mem inside) inLine
  · rw [List.getD_eq_default _ _ (Nat.le_of_not_lt inside)] at inLine
    contradiction

/-- A note that a line adds to a comment is a part of the line. -/
theorem mem_of_note? {line note : Text} {c : Char} (noted : (classify line).note? = some note)
    (member : c ∈ note) : c ∈ line := by
  cases kind : classify line with
  | comment text =>
    obtain ⟨body, commented, rfl⟩ := exists_body_of_classify_comment kind
    have same : Text.trim body = note := by simp_all [LineKind.note?]
    have inBody : c ∈ body := Text.mem_of_mem_trim (same ▸ member)
    rw [← List.append_eq_of_isPrefixOf?_eq_some commented]
    exact List.mem_append_right _ inBody
  | _ => simp [kind, LineKind.note?] at noted

/-- The comment of a declaration stays on one line. -/
theorem unbroken_commentBefore {lines : List Text} (whole : ∀ line ∈ lines, '\n' ∉ line)
    (index : Nat) : '\n' ∉ commentBefore lines index := by
  rw [commentBefore_eq_join]
  apply Text.not_mem_join (by decide)
  intro note member
  obtain ⟨line, _, noted⟩ := List.mem_filterMap.mp member
  split at noted
  · exact fun inNote => unbroken_textAt lines whole line (mem_of_note? noted inNote)
  · contradiction

end FfiBindings.Source
