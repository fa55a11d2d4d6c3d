import FfiBindings.Text.Bracket

/-!
# Balanced texts

The depth of a text is the number of brackets that it opens less the number that it closes, all
kinds alike. A balanced text never closes a bracket that it has not opened and leaves none open, so
it can stand anywhere in a parenthesized list without hiding the parenthesis that closes the list. In
turn, a list that ends at such a parenthesis is balanced. Texts without brackets are balanced, and
balanced texts put together are balanced again.
-/

namespace FfiBindings.Bracket

/-- What a character of a role adds to the depth. -/
def Role.weight : Role → Int
  | .opening => 1
  | .closing => -1
  | .neutral => 0

/-- The brackets that a text opens, less those that it closes. -/
def depth : Text → Int
  | [] => 0
  | c :: rest => (role c).weight + depth rest

/-- The depth never goes below zero on the way through the text and is zero at its end. -/
structure Balanced (text : Text) : Prop where
  covered : ∀ count, 0 ≤ depth (text.take count)
  closed : depth text = 0

instance (text : Text) : Decidable (Balanced text) :=
  decidable_of_iff ((∀ count < text.length + 1, 0 ≤ depth (text.take count)) ∧ depth text = 0) <| by
    constructor
    · rintro ⟨covered, closed⟩
      refine ⟨fun count => ?_, closed⟩
      by_cases inside : count < text.length + 1
      · exact covered count inside
      · rw [List.take_of_length_le (Nat.le_of_not_lt fun below => inside (Nat.lt_succ_of_lt below))]
        exact Int.le_of_eq closed.symm
    · intro balanced
      exact ⟨fun count _ => balanced.covered count, balanced.closed⟩

/-- The depths of two texts add up. -/
theorem depth_append (front back : Text) : depth (front ++ back) = depth front + depth back := by
  induction front with
  | nil => simp [depth]
  | cons c front inductionHypothesis =>
    rw [List.cons_append, depth, depth, inductionHypothesis, Int.add_assoc]

/-- Brackets aside, nothing changes the depth. -/
theorem depth_of_neutral {text : Text} (neutral : ∀ c ∈ text, role c = .neutral) :
    depth text = 0 := by
  induction text with
  | nil => rfl
  | cons c rest inductionHypothesis =>
    rw [depth, neutral c List.mem_cons_self,
      inductionHypothesis fun d member => neutral d (List.mem_cons_of_mem c member)]
    rfl

/-- A text without brackets is balanced. -/
theorem balanced_of_neutral {text : Text} (neutral : ∀ c ∈ text, role c = .neutral) :
    Balanced text where
  covered := by
    intro count
    have flat : depth (text.take count) = 0 :=
      depth_of_neutral fun c member => neutral c (List.mem_of_mem_take member)
    exact Int.le_of_eq flat.symm
  closed := depth_of_neutral neutral

/-- Two balanced texts are balanced together. -/
theorem Balanced.append {front back : Text} (frontBalanced : Balanced front)
    (backBalanced : Balanced back) : Balanced (front ++ back) where
  covered := by
    intro count
    rw [List.take_append, depth_append]
    exact Int.add_nonneg (frontBalanced.covered _) (backBalanced.covered _)
  closed := by rw [depth_append, frontBalanced.closed, backBalanced.closed, Int.add_zero]

/-- Balanced pieces are balanced when a balanced separator joins them. -/
theorem balanced_join {separator : Text} {pieces : List Text} (between : Balanced separator)
    (balanced : ∀ piece ∈ pieces, Balanced piece) : Balanced (Text.join separator pieces) := by
  induction pieces with
  | nil => exact ⟨by simp [Text.join, depth], rfl⟩
  | cons piece rest inductionHypothesis =>
    cases rest with
    | nil => exact balanced piece List.mem_cons_self
    | cons next later =>
      have tail := inductionHypothesis fun other member =>
        balanced other (List.mem_cons_of_mem piece member)
      exact ((balanced piece List.mem_cons_self).append between).append tail

/-- The search passes over a character and keeps it inside the list. The depth at which it goes on
is one more for an opening bracket, one less for a bracket that closes an inner one, and otherwise
the same. -/
theorem splitAtClose_cons {c : Char} {rest : Text} {opened deeper : Nat}
    (step : (deeper : Int) = opened + (role c).weight) :
    splitAtClose opened (c :: rest) =
      (splitAtClose deeper rest).map fun (inside, after) => (c :: inside, after) := by
  cases roleHere : role c with
  | opening =>
    rw [roleHere, Role.weight] at step
    obtain rfl : deeper = opened + 1 := by omega
    simp [splitAtClose, roleHere]
  | neutral =>
    rw [roleHere, Role.weight] at step
    obtain rfl : deeper = opened := by omega
    simp [splitAtClose, roleHere]
  | closing =>
    rw [roleHere, Role.weight] at step
    obtain rfl : opened = deeper + 1 := by omega
    simp [splitAtClose, roleHere]

/-- The search passes over a text that closes no more than is open before it, and goes on behind with what
is open there. The induction takes the open brackets along: what covers the whole text covers the rest
of it with the brackets open after the first character. -/
theorem splitAtClose_append {front : Text} {opened reached : Nat} (back : Text)
    (covered : ∀ count, 0 ≤ opened + depth (front.take count))
    (passed : (reached : Int) = opened + depth front) :
    splitAtClose opened (front ++ back) =
      (splitAtClose reached back).map fun (inside, after) => (front ++ inside, after) := by
  induction front generalizing opened with
  | nil =>
    obtain rfl : reached = opened := by
      rw [depth] at passed
      omega
    simp
  | cons c rest inductionHypothesis =>
    have coveredRest (count : Nat) :
        0 ≤ opened + ((role c).weight + depth (rest.take count)) := covered (count + 1)
    have nonnegative : 0 ≤ opened + (role c).weight := by
      simpa [depth] using coveredRest 0
    obtain ⟨deeper, step⟩ := Int.eq_ofNat_of_zero_le nonnegative
    have tail : splitAtClose deeper (rest ++ back) =
        (splitAtClose reached back).map fun (inside, after) => (rest ++ inside, after) := by
      apply inductionHypothesis
      · intro count
        rw [← step, Int.add_assoc]
        exact coveredRest count
      · rw [passed, depth, ← step, Int.add_assoc]
    rw [List.cons_append, splitAtClose_cons step.symm, tail, Option.map_map]
    rfl

/-- A balanced text is passed over. -/
theorem Balanced.splitAtClose_append {front : Text} (balanced : Balanced front) (back : Text) :
    splitAtClose 0 (front ++ back) =
      (splitAtClose 0 back).map fun (inside, after) => (front ++ inside, after) :=
  Bracket.splitAtClose_append back (fun count => by simpa using balanced.covered count)
    (by simpa using balanced.closed.symm)

/-- The list that a balanced text fills is closed by the parenthesis right after it. -/
theorem Balanced.splitAtClose {inside : Text} (balanced : Balanced inside) (after : Text) :
    splitAtClose 0 (inside ++ ')' :: after) = some (inside, after) := by
  have found : Bracket.splitAtClose 0 (')' :: after) = some ([], after) := rfl
  rw [balanced.splitAtClose_append, found, Option.map_some]
  simp

/-- What stands before the parenthesis that closes a list closes all that it opens itself, and so the
list is the text up to that parenthesis. -/
theorem covered_of_splitAtClose {opened : Nat} {text inside after : Text}
    (found : splitAtClose opened text = some (inside, after)) :
    text = inside ++ ')' :: after ∧ (∀ count, 0 ≤ opened + depth (inside.take count)) ∧
      opened + depth inside = 0 := by
  induction text generalizing opened inside with
  | nil => simp [splitAtClose] at found
  | cons c rest inductionHypothesis =>
    have passes (deeper : Nat) (step : (deeper : Int) = opened + (role c).weight) :
        c :: rest = inside ++ ')' :: after ∧ (∀ count, 0 ≤ opened + depth (inside.take count)) ∧
          opened + depth inside = 0 := by
      rw [splitAtClose_cons step] at found
      obtain ⟨⟨tail, behind⟩, foundTail, same⟩ := Option.map_eq_some_iff.mp found
      obtain ⟨rfl, rfl⟩ := Prod.mk.inj same
      obtain ⟨whole, covered, closed⟩ := inductionHypothesis foundTail
      refine ⟨congrArg (c :: ·) whole, fun count => ?_, ?_⟩
      · cases count with
        | zero => simp [depth]
        | succ count =>
          rw [List.take_succ_cons, depth, ← Int.add_assoc, ← step]
          exact covered count
      · rw [depth, ← Int.add_assoc, ← step, closed]
    cases roleHere : role c with
    | opening => exact passes (opened + 1) (by rw [roleHere]; rfl)
    | neutral => exact passes opened (by rw [roleHere]; simp [Role.weight])
    | closing =>
      cases opened with
      | succ shallower => exact passes shallower (by rw [roleHere, Role.weight]; omega)
      | zero =>
        simp only [splitAtClose, roleHere] at found
        split at found
        · next isClose =>
          obtain ⟨rfl, rfl⟩ := Prod.mk.inj (Option.some.inj found)
          obtain rfl : c = ')' := by simpa using isClose
          exact ⟨rfl, by simp [depth], rfl⟩
        · contradiction

/-- A list is balanced. -/
theorem balanced_of_splitAtClose {text inside after : Text}
    (found : splitAtClose 0 text = some (inside, after)) : Balanced inside := by
  obtain ⟨-, covered, closed⟩ := covered_of_splitAtClose found
  exact ⟨fun count => by simpa using covered count, by simpa using closed⟩

/-- Of two texts that are balanced together one is balanced when the other is. -/
theorem Balanced.front_iff_back {front back : Text} (balanced : Balanced (front ++ back)) :
    Balanced front ↔ Balanced back := by
  have closed := balanced.closed
  rw [depth_append] at closed
  constructor
  · intro frontBalanced
    refine ⟨fun count => ?_, by rw [← closed, frontBalanced.closed, Int.zero_add]⟩
    have covered := balanced.covered (front.length + count)
    rwa [List.take_length_add_append, depth_append, frontBalanced.closed, Int.zero_add] at covered
  · intro backBalanced
    rw [backBalanced.closed, Int.add_zero] at closed
    refine ⟨fun count => ?_, closed⟩
    have covered := balanced.covered (min count front.length)
    rw [List.take_append_of_le_length (Nat.min_le_right _ _)] at covered
    rwa [List.take_eq_take_min]

/-- A text is covered when its first character is, and the rest with the bracket that it opens or
closes. -/
theorem covered_cons_iff {c : Char} {rest : Text} {opened : Int} :
    (∀ count, 0 ≤ opened + depth ((c :: rest).take count)) ↔
      0 ≤ opened ∧ ∀ count, 0 ≤ opened + (role c).weight + depth (rest.take count) := by
  constructor
  · intro covered
    refine ⟨by simpa [depth] using covered 0, fun count => ?_⟩
    rw [Int.add_assoc]
    exact covered (count + 1)
  · rintro ⟨start, later⟩ (- | count)
    · simpa [depth] using start
    · rw [List.take_succ_cons, depth, ← Int.add_assoc]
      exact later count

/-- Characters that are no brackets make no difference to what covers a text. -/
theorem covered_filter_iff {kept : Char → Bool} {text : Text}
    (dropped : ∀ c ∈ text, kept c = false → role c = .neutral) (opened : Int) :
    (∀ count, 0 ≤ opened + depth ((text.filter kept).take count)) ↔
      ∀ count, 0 ≤ opened + depth (text.take count) := by
  induction text generalizing opened with
  | nil => rfl
  | cons c rest inductionHypothesis =>
    have later := inductionHypothesis fun d member => dropped d (List.mem_cons_of_mem c member)
    cases keeps : kept c with
    | true => rw [List.filter_cons_of_pos keeps, covered_cons_iff, covered_cons_iff, later]
    | false =>
      have neutral : (role c).weight = 0 := by rw [dropped c List.mem_cons_self keeps]; rfl
      rw [List.filter_cons_of_neg (by simp [keeps]), later, covered_cons_iff, neutral, Int.add_zero]
      exact ⟨fun covered => ⟨by simpa [depth] using covered 0, covered⟩, And.right⟩

theorem depth_filter {kept : Char → Bool} {text : Text}
    (dropped : ∀ c ∈ text, kept c = false → role c = .neutral) :
    depth (text.filter kept) = depth text := by
  induction text with
  | nil => rfl
  | cons c rest inductionHypothesis =>
    have later := inductionHypothesis fun d member => dropped d (List.mem_cons_of_mem c member)
    cases keeps : kept c with
    | true => rw [List.filter_cons_of_pos keeps, depth, depth, later]
    | false =>
      rw [List.filter_cons_of_neg (by simp [keeps]), later, depth,
        dropped c List.mem_cons_self keeps, Role.weight, Int.zero_add]

/-- Characters that are no brackets make no difference to the balance of a text. -/
theorem balanced_filter_iff {kept : Char → Bool} {text : Text}
    (dropped : ∀ c ∈ text, kept c = false → role c = .neutral) :
    Balanced (text.filter kept) ↔ Balanced text := by
  have covered := covered_filter_iff dropped 0
  have closed := depth_filter dropped
  simp only [Int.zero_add] at covered
  exact ⟨fun balanced => ⟨covered.mp balanced.covered, closed ▸ balanced.closed⟩,
    fun balanced => ⟨covered.mpr balanced.covered, closed.trans balanced.closed⟩⟩

end FfiBindings.Bracket
