import FfiBindings.Proofs.Descriptors
import FfiBindings.Proofs.Nesting

/-!
# Commas inside of brackets

A parameter list ends at the parenthesis that matches the one before it, so the brackets in it are
balanced. To tell the parameters apart brackets are not looked at: every comma parts two of them, one
inside of a function type as well.

A comma outside of all brackets is an outer one. The segments between outer commas are balanced like
the whole list. There is one parameter for each of them that is not blank exactly when all commas of
the list are outer ones; otherwise there are more parameters. And where all commas are outer ones, a
type is balanced exactly when the name in front of it is, since both come from one balanced segment.
-/

namespace FfiBindings.Text

/-- The pieces of a text that are not blank. -/
def nonblank (pieces : List Text) : List Text := pieces.filter (! ·.all isBlank)

end FfiBindings.Text

namespace FfiBindings.Bracket

variable {text piece : Text} {opened : Int}

/-- Cut a text at its outer commas, where some brackets are open in front of it. -/
def outerPieces (opened : Int) : Text → List Text
  | [] => [[]]
  | c :: rest =>
      if c == ',' && opened == 0 then [] :: outerPieces opened rest
      else
        match outerPieces (opened + (role c).weight) rest with
        | [] => [[c]]
        | piece :: pieces => (c :: piece) :: pieces

/-- All commas of a text are outer ones, where some brackets are open in front of it. -/
def OuterCommas (opened : Int) (text : Text) : Prop :=
  ∀ front back, text = front ++ ',' :: back → opened + depth front = 0

/-- What holds in front of every comma holds in front of the first character, if that is a comma, and
in front of every later one. -/
theorem forall_comma_cons_iff {c : Char} {rest : Text} {holds : Text → Prop} :
    (∀ front back, c :: rest = front ++ ',' :: back → holds front) ↔
      (c = ',' → holds []) ∧ ∀ front back, rest = front ++ ',' :: back → holds (c :: front) := by
  constructor
  · intro all
    refine ⟨fun comma => all [] rest (by rw [comma]; rfl), fun front back cut => ?_⟩
    exact all (c :: front) back (congrArg (c :: ·) cut)
  · rintro ⟨first, later⟩ (- | ⟨d, front⟩) back cut
    · exact first (List.cons.inj cut).1
    · obtain ⟨rfl, tail⟩ := List.cons.inj cut
      exact later front back tail

theorem outerPieces_ne_nil (opened : Int) (text : Text) : outerPieces opened text ≠ [] := by
  cases text with
  | nil => exact List.cons_ne_nil _ _
  | cons c rest =>
    unfold outerPieces
    split
    · exact List.cons_ne_nil _ _
    · split <;> exact List.cons_ne_nil _ _

theorem outerPieces_cons {c : Char} (rest : Text) (passed : ¬ (c = ',' ∧ opened = 0)) :
    ∃ first later, outerPieces (opened + (role c).weight) rest = first :: later ∧
      outerPieces opened (c :: rest) = (c :: first) :: later := by
  obtain ⟨first, later, shape⟩ :=
    List.exists_cons_of_ne_nil (outerPieces_ne_nil (opened + (role c).weight) rest)
  refine ⟨first, later, shape, ?_⟩
  rw [outerPieces, if_neg (by simpa using passed), shape]

theorem outerPieces_comma (rest : Text) :
    outerPieces 0 (',' :: rest) = [] :: outerPieces 0 rest := rfl

/-- A piece between outer commas: it closes what it opens and what is open in front of it, and its
commas are all inside of brackets. -/
structure Enclosed (opened : Int) (piece : Text) : Prop where
  covered : ∀ count, 0 ≤ opened + depth (piece.take count)
  closed : opened + depth piece = 0
  hidden : ∀ front back, piece = front ++ ',' :: back → 0 < opened + depth front

theorem Enclosed.balanced (enclosed : Enclosed 0 piece) : Balanced piece :=
  ⟨fun count => by simpa using enclosed.covered count, by simpa using enclosed.closed⟩

/-- Outer commas cut a text into such pieces. The first one goes on from what is open in front of the
text; in front of the others nothing is open. -/
theorem enclosed_outerPieces (covered : ∀ count, 0 ≤ opened + depth (text.take count))
    (closed : opened + depth text = 0) :
    ∃ first later, outerPieces opened text = first :: later ∧ Enclosed opened first ∧
      ∀ piece ∈ later, Enclosed 0 piece := by
  induction text generalizing opened with
  | nil => exact ⟨[], [], rfl, ⟨covered, closed, by simp⟩, by simp⟩
  | cons c rest inductionHypothesis =>
    obtain ⟨start, coveredRest⟩ := covered_cons_iff.mp covered
    rw [depth, ← Int.add_assoc] at closed
    obtain ⟨first, later, shape, enclosed, others⟩ := inductionHypothesis coveredRest closed
    by_cases outer : c = ',' ∧ opened = 0
    · obtain ⟨rfl, rfl⟩ := outer
      have shape : outerPieces 0 rest = first :: later := shape
      refine ⟨[], first :: later, by rw [outerPieces_comma, shape], ⟨?_, rfl, by simp⟩, ?_⟩
      · simp [depth]
      · exact List.forall_mem_cons.mpr ⟨enclosed, others⟩
    · obtain ⟨same, alsoLater, shapeToo, cut⟩ := outerPieces_cons rest outer
      obtain ⟨rfl, rfl⟩ := List.cons.inj (shape.symm.trans shapeToo)
      refine ⟨c :: first, later, cut, ⟨?_, ?_, ?_⟩, others⟩
      · exact covered_cons_iff.mpr ⟨start, enclosed.covered⟩
      · rw [depth, ← Int.add_assoc]
        exact enclosed.closed
      · refine forall_comma_cons_iff.mpr ⟨fun comma => ?_, fun front back split => ?_⟩
        · have enclosing : opened ≠ 0 := fun none => outer ⟨comma, none⟩
          rw [depth]
          omega
        · rw [depth, ← Int.add_assoc]
          exact enclosed.hidden front back split

/-- The pieces of a balanced text. -/
theorem Balanced.enclosed (balanced : Balanced text) :
    ∀ piece ∈ outerPieces 0 text, Enclosed 0 piece := by
  have covered (count : Nat) : 0 ≤ (0 : Int) + depth (text.take count) := by
    simpa using balanced.covered count
  have closed : (0 : Int) + depth text = 0 := by simpa using balanced.closed
  obtain ⟨first, later, shape, enclosed, others⟩ := enclosed_outerPieces covered closed
  rw [shape]
  exact List.forall_mem_cons.mpr ⟨enclosed, others⟩

/-- Every comma cuts the pieces between the outer commas further. -/
theorem split_eq_flatMap (opened : Int) (text : Text) :
    Text.split ',' text = (outerPieces opened text).flatMap (Text.split ',') := by
  induction text generalizing opened with
  | nil => rfl
  | cons c rest inductionHypothesis =>
    by_cases outer : c = ',' ∧ opened = 0
    · obtain ⟨rfl, rfl⟩ := outer
      rw [outerPieces_comma, List.flatMap_cons, ← inductionHypothesis]
      rfl
    · obtain ⟨first, later, shape, cut⟩ := outerPieces_cons rest outer
      have whole := inductionHypothesis (opened + (role c).weight)
      rw [shape, List.flatMap_cons] at whole
      rw [cut, List.flatMap_cons]
      exact Text.splitWhen_cons_append whole

/-- The outer commas cut as all commas do where all commas are outer ones. -/
theorem outerPieces_eq_split_iff :
    outerPieces opened text = Text.split ',' text ↔ OuterCommas opened text := by
  induction text generalizing opened with
  | nil => exact ⟨fun _ front back cut => by simp at cut, fun _ => rfl⟩
  | cons c rest inductionHypothesis =>
    rw [OuterCommas, forall_comma_cons_iff]
    have later : (∀ front back, rest = front ++ ',' :: back → opened + depth (c :: front) = 0) ↔
        outerPieces (opened + (role c).weight) rest = Text.split ',' rest := by
      simp only [inductionHypothesis, OuterCommas, depth, Int.add_assoc]
    rw [later]
    by_cases comma : c = ','
    · subst comma
      have cutAll : Text.split ',' (',' :: rest) = [] :: Text.split ',' rest := rfl
      by_cases outermost : opened = 0
      · subst outermost
        rw [outerPieces_comma, cutAll, List.cons_inj_right]
        simp [depth, show (role ',').weight = 0 from rfl]
      · have inside : ¬ (',' = ',' ∧ opened = 0) := fun both => outermost both.2
        obtain ⟨first, others, -, cut⟩ := outerPieces_cons rest inside
        simp [cut, cutAll, depth, outermost]
    · have other : ¬ (c = ',' ∧ opened = 0) := fun both => comma both.1
      obtain ⟨first, others, shape, cut⟩ := outerPieces_cons rest other
      obtain ⟨piece, pieces, cutRest⟩ :=
        List.exists_cons_of_ne_nil (Text.splitWhen_ne_nil (· == ',') rest)
      have cutAll : Text.split ',' (c :: rest) = (c :: piece) :: pieces :=
        Text.splitWhen_cons_of_kept (beq_false_of_ne comma) cutRest
      rw [cut, shape, cutAll, Text.split, cutRest]
      simp [comma]

/-! ### Counting pieces -/

/-- A bracket is not blank. -/
theorem role_of_isBlank {c : Char} (blank : Text.isBlank c = true) : role c = .neutral := by
  have other (bracket : Char) (solid : Text.isBlank bracket = false) : (c == bracket) = false := by
    refine beq_false_of_ne ?_
    rintro rfl
    simp [blank] at solid
  simp only [role, other '(' (by decide), other '[' (by decide), other '\x7b' (by decide),
    other ')' (by decide), other ']' (by decide), other '\x7d' (by decide)]
  rfl

/-- A text whose brackets do not match is not blank, and neither are all pieces of it. -/
theorem nonblank_ne_nil (unmatched : depth text ≠ 0) : Text.nonblank (Text.split ',' text) ≠ [] := by
  intro none
  refine unmatched (depth_of_neutral fun c member => ?_)
  by_cases comma : c = ','
  · rw [comma]
    rfl
  · have inPieces : c ∈ (Text.split ',' text).flatten := by
      rw [Text.split, Text.flatten_splitWhen]
      simpa [member] using comma
    obtain ⟨piece, isPiece, inPiece⟩ := List.mem_flatten.mp inPieces
    have blank : piece.all Text.isBlank = true := by
      simpa using List.filter_eq_nil_iff.mp none piece isPiece
    exact role_of_isBlank (List.all_eq_true.mp blank c inPiece)

/-- A piece with commas inside of brackets is cut by them into several pieces that are not blank: the
brackets around the first of them are opened before it and closed behind it. -/
theorem Enclosed.length_nonblank (enclosed : Enclosed 0 piece) :
    (Text.nonblank [piece]).length ≤ (Text.nonblank (Text.split ',' piece)).length ∧
      (',' ∈ piece →
        (Text.nonblank [piece]).length < (Text.nonblank (Text.split ',' piece)).length) := by
  have atMostOne : (Text.nonblank [piece]).length ≤ 1 := List.length_filter_le _ _
  by_cases comma : ',' ∈ piece
  · obtain ⟨front, back, cut, first⟩ := List.eq_append_cons_of_mem comma
    have kept : ∀ d ∈ front, (d == ',') = false := fun d member =>
      beq_false_of_ne fun same => first (same ▸ member)
    have opening := enclosed.hidden front back cut
    have closing : depth front + (0 + depth back) = 0 := by
      have closed := enclosed.closed
      rwa [cut, depth_append, depth, show (role ',').weight = 0 from rfl, Int.zero_add] at closed
    have inFront : Text.nonblank [front] ≠ [] := by
      have found : Text.nonblank (Text.split ',' front) ≠ [] := nonblank_ne_nil (by omega)
      rwa [Text.split, Text.splitWhen_of_kept kept] at found
    have behind : Text.nonblank (Text.split ',' back) ≠ [] := nonblank_ne_nil (by omega)
    have pieces : Text.nonblank (Text.split ',' piece) =
        Text.nonblank [front] ++ Text.nonblank (Text.split ',' back) := by
      rw [cut, Text.split, Text.splitWhen_append_cons back kept (by decide), ← Text.split,
        Text.nonblank, Text.nonblank, Text.nonblank, ← List.filter_append, List.singleton_append]
    have several : 2 ≤ (Text.nonblank (Text.split ',' piece)).length := by
      rw [pieces, List.length_append]
      exact Nat.add_le_add (List.length_pos_of_ne_nil inFront) (List.length_pos_of_ne_nil behind)
    exact ⟨by omega, fun _ => by omega⟩
  · have whole : Text.split ',' piece = [piece] := Text.splitWhen_of_kept fun d member =>
      beq_false_of_ne fun same => comma (same ▸ member)
    rw [whole]
    exact ⟨Nat.le_refl _, fun member => absurd member comma⟩

theorem length_nonblank_flatMap {pieces : List Text} (enclosed : ∀ piece ∈ pieces, Enclosed 0 piece) :
    (Text.nonblank pieces).length ≤ (Text.nonblank (pieces.flatMap (Text.split ','))).length ∧
      ((∃ piece ∈ pieces, ',' ∈ piece) →
        (Text.nonblank pieces).length < (Text.nonblank (pieces.flatMap (Text.split ','))).length) := by
  induction pieces with
  | nil => exact ⟨Nat.le_refl _, fun ⟨_, member, _⟩ => absurd member List.not_mem_nil⟩
  | cons piece rest inductionHypothesis =>
    obtain ⟨here, others⟩ := List.forall_mem_cons.mp enclosed
    obtain ⟨noFewer, more⟩ := here.length_nonblank
    obtain ⟨noFewerLater, moreLater⟩ := inductionHypothesis others
    have coarse : (Text.nonblank (piece :: rest)).length =
        (Text.nonblank [piece]).length + (Text.nonblank rest).length := by
      rw [← List.length_append, Text.nonblank, Text.nonblank, Text.nonblank, ← List.filter_append,
        List.singleton_append]
    have fine : (Text.nonblank ((piece :: rest).flatMap (Text.split ','))).length =
        (Text.nonblank (Text.split ',' piece)).length +
          (Text.nonblank (rest.flatMap (Text.split ','))).length := by
      rw [← List.length_append, Text.nonblank, Text.nonblank, Text.nonblank, ← List.filter_append,
        List.flatMap_cons]
    rw [coarse, fine]
    refine ⟨by omega, ?_⟩
    rintro ⟨other, member, comma⟩
    rcases List.mem_cons.mp member with rfl | later
    · have moreHere := more comma
      omega
    · have moreThere := moreLater ⟨other, later, comma⟩
      omega

/-- Where some comma stands inside of brackets, all commas make more pieces than the outer ones. -/
theorem Balanced.length_nonblank_lt (balanced : Balanced text) (inner : ¬ OuterCommas 0 text) :
    (Text.nonblank (outerPieces 0 text)).length < (Text.nonblank (Text.split ',' text)).length := by
  rw [split_eq_flatMap 0]
  refine (length_nonblank_flatMap balanced.enclosed).2 ?_
  by_contra none
  refine inner (outerPieces_eq_split_iff.mp ?_)
  have whole : ∀ piece ∈ outerPieces 0 text, Text.split ',' piece = [piece] := fun piece member =>
    Text.splitWhen_of_kept fun d inPiece =>
      beq_false_of_ne fun same => none ⟨piece, member, same ▸ inPiece⟩
  rw [split_eq_flatMap 0, List.flatMap_congr whole, List.flatMap_singleton']

/-! ### Names and types -/

/-- A name and a type that come from one balanced segment are balanced together. -/
theorem Balanced.type_iff_name {segment name : Text} {words : List Text} (balanced : Balanced segment)
    (shape : Text.fields segment = name :: words) :
    Balanced (Text.join " " words) ↔ Balanced name := by
  have isField {word : Text} (member : word ∈ words) : word ∈ Text.fields segment := by
    rw [shape]
    exact List.mem_cons_of_mem name member
  have typeFields : Text.fields (Text.join " " words) = words :=
    Text.fields_join (fun _ member => Text.ne_nil_of_mem_fields (isField member))
      fun _ member _ => Text.solid_of_mem_fields (isField member)
  have blankNeutral (text : Text) :
      ∀ c ∈ text, (! Text.isBlank c) = false → role c = .neutral :=
    fun c _ blank => role_of_isBlank (by simpa using blank)
  have together : Balanced (name ++ words.flatten) := by
    rw [← List.flatten_cons, ← shape, Text.flatten_fields]
    exact (balanced_filter_iff (blankNeutral segment)).mpr balanced
  rw [← balanced_filter_iff (blankNeutral _), ← Text.flatten_fields, typeFields]
  exact together.front_iff_back.symm

end FfiBindings.Bracket

namespace FfiBindings.Source

open FfiBindings.Bracket (Balanced OuterCommas outerPieces)
open Text (nonblank)

/-- A parameter that stems from a segment: it bears the first field, and what else the segment says is
its type. -/
def StemsFrom (parameter : Parameter) (segment : Text) : Prop :=
  ∃ words, Text.fields segment = parameter.name :: words ∧
    (words ≠ [] → parameter.type = Text.join " " words)

/-- Parameters that follow the brackets of their list: they stem from the segments between its outer
commas, in order and one from each that is not blank, and have balanced types where these segments are
balanced. -/
def FollowsBrackets (list : Text) (parameters : List Parameter) : Prop :=
  List.Forall₂ (fun parameter segment =>
    StemsFrom parameter segment ∧ (Balanced segment → Balanced parameter.type))
    parameters (nonblank (outerPieces 0 list))

/-- A segment that says nothing is blank. -/
theorem Segment.parse?_eq_none_iff {text : Text} :
    Segment.parse? text = none ↔ text.all Text.isBlank = true := by
  rw [← Text.fields_eq_nil_iff]
  unfold Segment.parse?
  split <;> simp_all

/-- There is one parameter for each piece that is not blank, in order. -/
theorem stemsFrom_of_resolveTypes {pieces : List Text} {parameters : List Parameter}
    (resolved : resolveTypes (pieces.filterMap Segment.parse?) = .ok parameters) :
    List.Forall₂ StemsFrom parameters (nonblank pieces) := by
  induction pieces generalizing parameters with
  | nil =>
    cases resolved
    exact .nil
  | cons piece rest inductionHypothesis =>
    cases parsed : Segment.parse? piece with
    | none =>
      have blank := Segment.parse?_eq_none_iff.mp parsed
      rw [List.filterMap_cons_none parsed] at resolved
      rw [nonblank, List.filter_cons_of_neg (by simpa using blank)]
      exact inductionHypothesis resolved
    | some segment =>
      have solid : ¬ piece.all Text.isBlank = true := fun blank => by
        simp [Segment.parse?_eq_none_iff.mpr blank] at parsed
      rw [List.filterMap_cons_some parsed] at resolved
      obtain ⟨type, others, shared, later, rfl⟩ := resolveTypes_cons_inv resolved
      rw [nonblank, List.filter_cons_of_pos (by simpa using solid)]
      obtain ⟨words, shape, states⟩ := Segment.parse?_inv parsed
      refine .cons ⟨words, shape, fun stated => ?_⟩ (inductionHypothesis later)
      have own : segment.type = some (Text.join " " words) := (states _).mpr ⟨stated, rfl⟩
      simpa [sharedType?, own, eq_comm] using shared

/-- Where a declaration has its parts, the brackets in its parameter list are balanced. -/
theorem balanced_of_splitDeclaration? {line : Text} {head : Head}
    (parts : splitDeclaration? line = some head) : Balanced head.parameters := by
  obtain ⟨line, -, rfl⟩ := exists_declarationLine parts
  exact line.balanced

/-- The parameters of a declaration stem from the segments between all commas of its list, one from each
that is not blank. They stem from the segments between the outer commas exactly when all commas are
outer ones; otherwise there are more parameters than such segments that are not blank. The segments
between the outer commas are balanced. So where there are no other commas a type is balanced exactly
when the name before it is, in the segment that states the type. -/
theorem parameters_of_outerCommas (line function : Text) (number : Nat) (head : Head)
    (parameters : List Parameter) (parts : splitDeclaration? line = some head)
    (parsed : parseParameters head.parameters function number = .ok parameters) :
    List.Forall₂ StemsFrom parameters (nonblank (Text.split ',' head.parameters)) ∧
      (List.Forall₂ StemsFrom parameters (nonblank (outerPieces 0 head.parameters)) ↔
        OuterCommas 0 head.parameters) ∧
      (¬ OuterCommas 0 head.parameters →
        (nonblank (outerPieces 0 head.parameters)).length < parameters.length) ∧
      (∀ segment ∈ outerPieces 0 head.parameters, Balanced segment) ∧
      (OuterCommas 0 head.parameters → ∀ parameter ∈ parameters,
        ∃ segment ∈ outerPieces 0 head.parameters, ∃ name words,
          Text.fields segment = name :: words ∧ words ≠ [] ∧
            parameter.type = Text.join " " words ∧ (Balanced parameter.type ↔ Balanced name)) := by
  have balanced := balanced_of_splitDeclaration? parts
  have resolved := resolveTypes_of_parseParameters parsed
  have stems := stemsFrom_of_resolveTypes resolved
  have fewer (inner : ¬ OuterCommas 0 head.parameters) :
      (nonblank (outerPieces 0 head.parameters)).length < parameters.length := by
    rw [stems.length_eq]
    exact balanced.length_nonblank_lt inner
  have outerBalanced (segment : Text) (member : segment ∈ outerPieces 0 head.parameters) :
      Balanced segment := (balanced.enclosed segment member).balanced
  refine ⟨stems, ⟨fun stemsFromOuter => ?_, fun outer => ?_⟩, fewer, outerBalanced, ?_⟩
  · by_contra inner
    exact absurd stemsFromOuter.length_eq (Nat.ne_of_gt (fewer inner))
  · rwa [Bracket.outerPieces_eq_split_iff.mpr outer]
  · intro outer parameter member
    obtain ⟨segment, isSegment, name, words, shape, someWords, isType⟩ :=
      exists_piece_of_type resolved member
    rw [← Bracket.outerPieces_eq_split_iff.mpr outer] at isSegment
    refine ⟨segment, isSegment, name, words, shape, someWords, isType, ?_⟩
    rw [isType]
    exact (outerBalanced segment isSegment).type_iff_name shape

/-- A declaration whose parameters are parted by outer commas alone. -/
def plainLine : Text := "func Fold(step func(int) int, first, rest map[string][]int) int \x7b"

/-- The law at that declaration: its three parameters stem from the segments between the outer commas,
and their types are balanced. -/
theorem parameters_of_outerCommas_plain :
    ∃ head parameters, splitDeclaration? plainLine = some head ∧
      parseParameters head.parameters "Fold" 1 = .ok parameters ∧ parameters.length = 3 ∧
      List.Forall₂ StemsFrom parameters (nonblank (outerPieces 0 head.parameters)) ∧
      ∀ parameter ∈ parameters, Balanced parameter.type := by
  have parts : splitDeclaration? plainLine =
      some ⟨"Fold", "step func(int) int, first, rest map[string][]int", " int \x7b"⟩ := by
    decide +kernel
  have parsed : parseParameters "step func(int) int, first, rest map[string][]int" "Fold" 1 =
      .ok [⟨"step", "func(int) int"⟩, ⟨"first", "map[string][]int"⟩,
        ⟨"rest", "map[string][]int"⟩] := by
    decide +kernel
  obtain ⟨-, stems, -, -, typed⟩ := parameters_of_outerCommas plainLine "Fold" 1 _ _ parts parsed
  have outer : OuterCommas 0 "step func(int) int, first, rest map[string][]int" :=
    Bracket.outerPieces_eq_split_iff.mp (by decide)
  refine ⟨_, _, parts, parsed, rfl, stems.mpr outer, fun parameter member => ?_⟩
  obtain ⟨segment, isSegment, name, words, shape, -, -, sameBalance⟩ := typed outer parameter member
  have named : ∀ segment ∈ outerPieces 0 "step func(int) int, first, rest map[string][]int",
      ∀ name ∈ (Text.fields segment).head?, Balanced name := by decide
  exact sameBalance.mpr (named segment isSegment name (by rw [shape]; rfl))

/-- Parameters need not follow the brackets of their list. A comma inside of a function type makes one
more of them than there are segments; and where a bracket is glued to the name before it, the type lacks
that bracket though its segment is balanced. -/
theorem not_followsBrackets :
    (∃ head parameters,
      splitDeclaration? "func Apply(call func(int, int) int, value int) int \x7b" = some head ∧
      parseParameters head.parameters "Apply" 1 = .ok parameters ∧ parameters.length = 3 ∧
      (nonblank (outerPieces 0 head.parameters)).length = 2 ∧
      ¬ FollowsBrackets head.parameters parameters) ∧
    ∃ head parameters, splitDeclaration? "func Store(slot[ int]) \x7b" = some head ∧
      parseParameters head.parameters "Store" 1 = .ok parameters ∧
      OuterCommas 0 head.parameters ∧ ¬ FollowsBrackets head.parameters parameters := by
  refine ⟨⟨⟨"Apply", "call func(int, int) int, value int", " int \x7b"⟩,
      [⟨"call", "func(int"⟩, ⟨"int)", "int"⟩, ⟨"value", "int"⟩],
      by decide +kernel, by decide +kernel, rfl, by decide, fun follows => ?_⟩,
    ⟨⟨"Store", "slot[ int]", " \x7b"⟩, [⟨"slot[", "int]"⟩], by decide +kernel, by decide +kernel,
      Bracket.outerPieces_eq_split_iff.mp (by decide), fun follows => ?_⟩⟩
  · have counted : 3 = (nonblank (outerPieces 0 "call func(int, int) int, value int")).length :=
      follows.length_eq
    exact absurd counted (by decide)
  · have pieces : nonblank (outerPieces 0 "slot[ int]") = ["slot[ int]"] := by decide
    have follows : List.Forall₂ _ _ (nonblank (outerPieces 0 "slot[ int]")) := follows
    rw [pieces] at follows
    obtain ⟨⟨-, balancedType⟩, -⟩ := List.forall₂_cons.mp follows
    have unmatched : ¬ Balanced "int]" := by decide
    exact unmatched (balancedType (by decide))

end FfiBindings.Source
