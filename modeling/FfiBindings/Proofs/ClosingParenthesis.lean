import FfiBindings.Proofs.Encoding
import FfiBindings.Proofs.Nesting
import Mathlib.Data.Option.Basic

/-!
# The parenthesis that closes a list

A list in parentheses is closed by the parenthesis that stands at depth zero, where no bracket in front
of it closes more than was opened. There is at most one such place, and its offset is one at which the
bytes of the text can be cut. The search gives this offset and no other. It gives none where the text
ends before its list does, and where a bracket of another kind comes at depth zero.

On a machine the search is a loop with the depth in a word. The loop here has a counter of 32 bits and
faults where the counter would overflow or go below zero. On texts that are not too long it never does:
the counter holds the depth of the characters that were passed, which is not below zero there and at most
their number.
-/

namespace FfiBindings.Bracket

/-- The characters of a text whose bytes begin before an offset. -/
def charactersBefore (offset : Nat) : Text → Text
  | [] => []
  | c :: rest =>
      if offset = 0 then []
      else c :: charactersBefore (offset - (Utf8.encodeChar c).length) rest

/-- The list is closed at an offset: the byte there is a closing parenthesis, and the characters before
it close just the brackets that they open. -/
structure ClosesAt (text : Text) (offset : Nat) : Prop where
  parenthesis : (Utf8.encode text)[offset]? = some 0x29
  balanced : Balanced (charactersBefore offset text)

/-- A text nowhere closes more brackets than it has opened. A list that begins with it goes on behind. -/
def Covered (text : Text) : Prop := ∀ count, 0 ≤ depth (text.take count)

/-- A bracket that cannot close the list comes at depth zero. -/
def Barred (text : Text) : Prop :=
  ∃ inside c after, text = inside ++ c :: after ∧ Balanced inside ∧ (c = ']' ∨ c = '\x7d')

/-! ### Where a list is closed -/

/-- The characters before the end of a first part are those of the part. -/
theorem charactersBefore_append (front back : Text) :
    charactersBefore (Utf8.encode front).length (front ++ back) = front := by
  induction front with
  | nil => cases back <;> simp [charactersBefore, Utf8.encode]
  | cons c front inductionHypothesis =>
    have length : (Utf8.encode (c :: front)).length =
        (Utf8.encodeChar c).length + (Utf8.encode front).length := by
      rw [Utf8.encode, List.flatMap_cons, List.length_append, ← Utf8.encode]
    have behind : (Utf8.encode (c :: front)).length ≠ 0 :=
      Nat.ne_of_gt (Nat.lt_of_lt_of_le (Nat.succ_pos _) (Utf8.length_le_encode (c :: front)))
    rw [List.cons_append, charactersBefore, if_neg behind, length, Nat.add_sub_cancel_left,
      inductionHypothesis]

/-- A list is closed behind a balanced text, and nowhere else. The byte of a parenthesis is never in the
middle of a character, so the offset cuts the text. -/
theorem closesAt_iff {text : Text} {offset : Nat} :
    ClosesAt text offset ↔ ∃ inside after, text = inside ++ ')' :: after ∧
      (Utf8.encode inside).length = offset ∧ Balanced inside := by
  constructor
  · rintro ⟨parenthesis, balanced⟩
    obtain ⟨inRange, byte⟩ := List.getElem?_eq_some_iff.mp parenthesis
    have spelled : Utf8.encode text =
        (Utf8.encode text).take offset ++ 0x29 :: (Utf8.encode text).drop (offset + 1) := by
      rw [← byte, ← List.drop_eq_getElem_cons, List.take_append_drop]
    obtain ⟨inside, after, whole, front, -⟩ := Utf8.exists_cut_of_ascii (by decide) spelled
    have length : (Utf8.encode inside).length = offset := by
      rw [← front, List.length_take_of_le (Nat.le_of_lt inRange)]
    refine ⟨inside, after, whole, length, ?_⟩
    rwa [whole, ← length, charactersBefore_append] at balanced
  · rintro ⟨inside, after, rfl, rfl, balanced⟩
    refine ⟨?_, by rwa [charactersBefore_append]⟩
    rw [Utf8.encode_append, List.getElem?_append_right (Nat.le_refl _), Nat.sub_self]
    rfl

/-- The search gives the offset at which the list is closed. -/
theorem closeOffset?_eq_some_iff {text : Text} {offset : Nat} :
    closeOffset? text = some offset ↔ ClosesAt text offset := by
  rw [closesAt_iff, closeOffset?, Option.map_eq_some_iff]
  constructor
  · rintro ⟨⟨inside, after⟩, found, rfl⟩
    obtain ⟨whole, -, -⟩ := covered_of_splitAtClose found
    exact ⟨inside, after, whole, rfl, balanced_of_splitAtClose found⟩
  · rintro ⟨inside, after, rfl, rfl, balanced⟩
    exact ⟨(inside, after), balanced.splitAtClose after, rfl⟩

/-! ### Why a list is not closed -/

/-- The closing brackets. -/
theorem role_eq_closing_iff {c : Char} :
    role c = .closing ↔ c = ')' ∨ c = ']' ∨ c = '\x7d' := by
  constructor
  · intro closing
    by_contra other
    simp only [not_or] at other
    unfold role at closing
    split_ifs at closing
    simp_all
  · rintro (rfl | rfl | rfl) <;> rfl

/-- A text closes no more than is open before it, or has a first bracket that does: what stands in front
of that one closes just what is open. -/
theorem exists_first_unmatched (text : Text) {opened : Int} (start : 0 ≤ opened) :
    (∀ count, 0 ≤ opened + depth (text.take count)) ∨
      ∃ inside c after, text = inside ++ c :: after ∧
        (∀ count, 0 ≤ opened + depth (inside.take count)) ∧ opened + depth inside = 0 ∧
        role c = .closing := by
  induction text generalizing opened with
  | nil => exact .inl fun count => by simpa [depth] using start
  | cons c rest inductionHypothesis =>
    by_cases further : 0 ≤ opened + (role c).weight
    · rcases inductionHypothesis further with
        covered | ⟨inside, d, after, rfl, covered, closed, closing⟩
      · exact .inl (covered_cons_iff.mpr ⟨start, covered⟩)
      · refine .inr ⟨c :: inside, d, after, rfl, covered_cons_iff.mpr ⟨start, covered⟩,
          ?_, closing⟩
        rw [depth, ← Int.add_assoc, closed]
    · have closing : role c = .closing := by
        cases roleHere : role c with
        | closing => rfl
        | opening | neutral =>
          rw [roleHere, Role.weight] at further
          omega
      rw [closing, Role.weight] at further
      refine .inr ⟨[], c, rest, rfl, fun count => by simpa [depth] using start, ?_, closing⟩
      rw [depth]
      omega

/-- The list is closed, or it goes on behind the text, or it is barred. -/
theorem closing_cases (text : Text) :
    (∃ inside after, text = inside ++ ')' :: after ∧ Balanced inside) ∨ Covered text ∨ Barred text := by
  rcases exists_first_unmatched text (Int.le_refl 0) with
    covered | ⟨inside, c, after, whole, covered, closed, closing⟩
  · exact .inr (.inl fun count => by simpa using covered count)
  · have balanced : Balanced inside :=
      ⟨fun count => by simpa using covered count, by simpa using closed⟩
    rcases role_eq_closing_iff.mp closing with rfl | other
    · exact .inl ⟨inside, after, whole, balanced⟩
    · exact .inr (.inr ⟨inside, c, after, whole, balanced, other⟩)

/-- A list that goes on behind the text is not closed. -/
theorem closeOffset?_of_covered {text : Text} (covered : Covered text) : closeOffset? text = none := by
  obtain ⟨reached, passed⟩ := Int.eq_ofNat_of_zero_le (covered text.length)
  rw [List.take_length] at passed
  have still : (reached : Int) = (0 : Nat) + depth text := by simpa using passed.symm
  have split := splitAtClose_append [] (fun count => by simpa using covered count) still
  rw [List.append_nil] at split
  rw [closeOffset?, split]
  rfl

/-- A list that is barred is not closed. -/
theorem closeOffset?_of_barred {text : Text} (barred : Barred text) : closeOffset? text = none := by
  obtain ⟨inside, c, after, rfl, balanced, other⟩ := barred
  have none : splitAtClose 0 (c :: after) = none := by
    rcases other with rfl | rfl <;> rfl
  rw [closeOffset?, balanced.splitAtClose_append, none]
  rfl

/-- The search gives nothing just where the list goes on behind the text or is barred. -/
theorem closeOffset?_eq_none_iff {text : Text} :
    closeOffset? text = none ↔ Covered text ∨ Barred text := by
  constructor
  · intro none
    rcases closing_cases text with ⟨inside, after, rfl, balanced⟩ | blocked
    · rw [closeOffset?, balanced.splitAtClose] at none
      contradiction
    · exact blocked
  · rintro (covered | barred)
    · exact closeOffset?_of_covered covered
    · exact closeOffset?_of_barred barred

/-! ### A counter of 32 bits -/

/-- What can go wrong with a counter. -/
inductive CounterFault where
  /-- It would be raised above the greatest number of 32 bits. -/
  | overflow
  /-- It would be lowered below zero. -/
  | belowZero
  deriving Repr, DecidableEq

/-- Count an opening bracket. -/
def raise (counter : Int32) : Except CounterFault Int32 :=
  if counter = Int32.maxValue then .error .overflow else .ok (counter + 1)

/-- Count a closing bracket. -/
def lower (counter : Int32) : Except CounterFault Int32 :=
  if counter ≤ 0 then .error .belowZero else .ok (counter - 1)

/-- The search as a loop over the characters and their offsets, with a counter for the depth. -/
def search (counter : Int32) (offset : Nat) : Text → Except CounterFault (Option Nat)
  | [] => .ok none
  | c :: rest =>
      let behind := offset + (Utf8.encodeChar c).length
      match role c with
      | .opening => do search (← raise counter) behind rest
      | .neutral => search counter behind rest
      | .closing =>
          -- At depth zero the search ends, with any bracket.
          if counter = 0 then .ok (if c == ')' then some offset else none)
          else do search (← lower counter) behind rest

variable {counter : Int32}

/-- A counter below the greatest number is raised by one. -/
theorem raise_of_lt (start : 0 ≤ counter.toInt) (short : counter.toInt + 1 < 0x80000000) :
    ∃ next, raise counter = .ok next ∧ next.toInt = counter.toInt + 1 := by
  have small : counter ≠ Int32.maxValue := by
    rintro rfl
    rw [Int32.toInt_maxValue] at short
    omega
  refine ⟨counter + 1, if_neg small, ?_⟩
  rw [Int32.toInt_add, Int32.toInt_one]
  exact Int.bmod_eq_of_le (by omega) (by omega)

/-- A counter above zero is lowered by one. -/
theorem lower_of_pos (positive : 0 < counter.toInt) :
    ∃ next, lower counter = .ok next ∧ next.toInt = counter.toInt - 1 := by
  have above : ¬ counter ≤ 0 := by
    rw [Int32.le_iff_toInt_le, Int32.toInt_zero]
    omega
  have bound := counter.toInt_lt
  refine ⟨counter - 1, if_neg above, ?_⟩
  rw [Int32.toInt_sub, Int32.toInt_one]
  exact Int.bmod_eq_of_le (by omega) (by omega)

/-- The loop passes over a character that closes no more than is open before it. -/
theorem search_cons {c : Char} (offset : Nat) (rest : Text) (start : 0 ≤ counter.toInt)
    (covered : 0 ≤ counter.toInt + (role c).weight) (short : counter.toInt + 1 < 0x80000000) :
    ∃ next : Int32, next.toInt = counter.toInt + (role c).weight ∧
      search counter offset (c :: rest) =
        search next (offset + (Utf8.encodeChar c).length) rest := by
  cases roleHere : role c with
  | opening =>
    obtain ⟨next, raised, value⟩ := raise_of_lt start short
    exact ⟨next, value, by simp [search, roleHere, raised, bind, Except.bind]⟩
  | neutral => exact ⟨counter, by simp [Role.weight], by simp [search, roleHere]⟩
  | closing =>
    rw [roleHere, Role.weight] at covered
    have positive : 0 < counter.toInt := by omega
    have inner : counter ≠ 0 := by
      rintro rfl
      simp at positive
    obtain ⟨next, lowered, value⟩ := lower_of_pos positive
    exact ⟨next, by rw [value, Role.weight]; omega,
      by simp [search, roleHere, inner, lowered, bind, Except.bind]⟩

/-- The loop passes over a text that closes no more than is open before it, without a fault, and then the
counter holds the depth there. The length of the text leaves room for as many opening brackets. -/
theorem search_append {front : Text} (counter : Int32) (offset : Nat) (back : Text)
    (covered : ∀ count, 0 ≤ counter.toInt + depth (front.take count))
    (short : counter.toInt + front.length < 0x80000000) :
    ∃ reached : Int32, reached.toInt = counter.toInt + depth front ∧
      search counter offset (front ++ back) =
        search reached (offset + (Utf8.encode front).length) back := by
  induction front generalizing counter offset with
  | nil => exact ⟨counter, by simp [depth], rfl⟩
  | cons c rest inductionHypothesis =>
    obtain ⟨start, coveredRest⟩ := covered_cons_iff.mp covered
    have coveredFirst : 0 ≤ counter.toInt + (role c).weight := by
      simpa [depth] using coveredRest 0
    rw [List.length_cons] at short
    obtain ⟨next, value, stepped⟩ :=
      search_cons offset (rest ++ back) start coveredFirst (by omega)
    have rise : (role c).weight ≤ 1 := by cases role c <;> decide
    rw [← value] at coveredRest
    obtain ⟨reached, depthReached, ran⟩ := inductionHypothesis next
      (offset + (Utf8.encodeChar c).length) coveredRest (by omega)
    refine ⟨reached, by rw [depthReached, value, depth, Int.add_assoc], ?_⟩
    rw [List.cons_append, stepped, ran, Utf8.encode, Utf8.encode, List.flatMap_cons,
      List.length_append, Nat.add_assoc]

/-- The loop, started at the beginning of a text that is not too long, passes over any first part that
closes no more than it opens. -/
theorem search_of_covered {front back : Text}
    (short : (Utf8.encode (front ++ back)).length < 0x80000000) (covered : Covered front) :
    ∃ reached : Int32, reached.toInt = depth front ∧
      search 0 0 (front ++ back) = search reached (Utf8.encode front).length back := by
  have characters := Utf8.length_le_encode (front ++ back)
  rw [List.length_append] at characters
  obtain ⟨reached, value, ran⟩ := search_append 0 0 back
    (fun count => by simpa using covered count) (by rw [Int32.toInt_zero]; omega)
  rw [Int32.toInt_zero, Int.zero_add] at value
  rw [Nat.zero_add] at ran
  exact ⟨reached, value, ran⟩

/-- Behind a balanced first part the counter is at zero. -/
theorem search_of_balanced {front back : Text}
    (short : (Utf8.encode (front ++ back)).length < 0x80000000) (balanced : Balanced front) :
    search 0 0 (front ++ back) = search 0 (Utf8.encode front).length back := by
  obtain ⟨reached, value, ran⟩ := search_of_covered short balanced.covered
  rw [balanced.closed, ← Int32.toInt_zero, Int32.toInt_inj] at value
  rw [ran, value]

/-- The loop gives what the search gives, and no fault. -/
theorem search_eq {text : Text} (short : (Utf8.encode text).length < 0x80000000) :
    search 0 0 text = .ok (closeOffset? text) := by
  rcases closing_cases text with ⟨inside, after, rfl, balanced⟩ | covered | barred
  · rw [search_of_balanced short balanced, closeOffset?, balanced.splitAtClose]
    rfl
  · have shortWhole : (Utf8.encode (text ++ [])).length < 0x80000000 := by rwa [List.append_nil]
    obtain ⟨reached, -, ran⟩ := search_of_covered shortWhole covered
    rw [List.append_nil] at ran
    rw [ran, closeOffset?_of_covered covered]
    rfl
  · rw [closeOffset?_of_barred barred]
    obtain ⟨inside, c, after, rfl, balanced, other⟩ := barred
    rw [search_of_balanced short balanced]
    rcases other with rfl | rfl <;> rfl

/-- What the search for the closing parenthesis gives on a text of fewer than 2 ^ 31 bytes, as many as a
counter of 32 bits can count. It gives the offset at which the list is closed; there is only one, and it
cuts the text in front of the parenthesis. It gives nothing just where the list is closed nowhere, which
is where the text ends first or a bracket of another kind comes at depth zero. The loop with the counter
gives the same and no fault, and wherever it has come to, the counter holds the depth of the characters
that it has passed, which is not below zero. -/
theorem closeOffset?_of_short (text : Text) (short : (Utf8.encode text).length < 0x80000000) :
    (∀ offset, closeOffset? text = some offset ↔ ClosesAt text offset) ∧
      (∀ offset other, ClosesAt text offset → ClosesAt text other → offset = other) ∧
      (∀ offset, ClosesAt text offset → ∃ inside after, text = inside ++ ')' :: after ∧
        Utf8.CutsAt text offset inside (')' :: after)) ∧
      (closeOffset? text = none ↔ ∀ offset, ¬ ClosesAt text offset) ∧
      (closeOffset? text = none ↔ Covered text ∨ Barred text) ∧
      search 0 0 text = .ok (closeOffset? text) ∧
      ∀ front back, text = front ++ back → Covered front →
        ∃ reached : Int32, reached.toInt = depth front ∧ 0 ≤ reached.toInt ∧
          search 0 0 text = search reached (Utf8.encode front).length back := by
  refine ⟨fun offset => closeOffset?_eq_some_iff, ?_, ?_, ?_, closeOffset?_eq_none_iff,
    search_eq short, ?_⟩
  · intro offset other closes closesOther
    rw [← closeOffset?_eq_some_iff] at closes closesOther
    exact Option.some.inj (closes.symm.trans closesOther)
  · intro offset closes
    obtain ⟨inside, after, rfl, rfl, -⟩ := closesAt_iff.mp closes
    exact ⟨inside, after, rfl, Utf8.cutsAt_append _ _⟩
  · simp only [← closeOffset?_eq_some_iff]
    exact Option.eq_none_iff_forall_ne_some
  · rintro front back rfl covered
    obtain ⟨reached, value, ran⟩ := search_of_covered short covered
    have nonnegative := covered front.length
    rw [List.take_length, ← value] at nonnegative
    exact ⟨reached, value, nonnegative, ran⟩

/-- A list with letters of several bytes and nested brackets, and what stands behind it. -/
def nestedList : Text := "größe map[string][]int, f func(int) int) int"

/-- A list that is barred by a square bracket in front of its parenthesis. -/
def barredList : Text := "f func(int) int]) int"

/-- The law at these lists. The first is closed behind 41 bytes, which are 39 characters, and the second
nowhere. -/
theorem closeOffset?_of_short_nested :
    (Utf8.encode nestedList).length < 0x80000000 ∧ ClosesAt nestedList 41 ∧
      (∀ other, ClosesAt nestedList other → 41 = other) ∧
      search 0 0 nestedList = .ok (some 41) ∧
      (Utf8.encode barredList).length < 0x80000000 ∧ (∀ offset, ¬ ClosesAt barredList offset) ∧
      (Covered barredList ∨ Barred barredList) ∧ search 0 0 barredList = .ok none := by
  have short : (Utf8.encode nestedList).length < 0x80000000 := by decide
  have shortBarred : (Utf8.encode barredList).length < 0x80000000 := by decide
  have found : closeOffset? nestedList = some 41 := by decide
  have none : closeOffset? barredList = none := by decide
  obtain ⟨closes, unique, -, -, -, looped, -⟩ := closeOffset?_of_short nestedList short
  obtain ⟨-, -, -, nowhere, blocked, loopedBarred, -⟩ := closeOffset?_of_short barredList shortBarred
  rw [found] at looped
  rw [none] at loopedBarred
  have closesHere := (closes 41).mp found
  exact ⟨short, closesHere, fun other => unique 41 other closesHere, looped, shortBarred,
    nowhere.mp none, blocked.mp none, loopedBarred⟩

end FfiBindings.Bracket
