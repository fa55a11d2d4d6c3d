import FfiBindings.Path
import Mathlib.Data.List.Basic
import Mathlib.Data.List.TakeWhile

/-!
# The steps of a path

A slash cuts the steps of a path in two. From this follow the steps of a joined path, which are
those of its two parts, and of the parent of a path, which are the first ones of the path's own.
The name at the end of a path is its last step, where the path ends in that name.
-/

namespace FfiBindings.Path

variable {path parent : Path} {name : Bytes}

theorem cut_ne_nil (bytes : Bytes) : steps.cut bytes ≠ [] := by
  cases bytes with
  | nil => simp [steps.cut]
  | cons b rest =>
    rw [steps.cut]
    split
    · simp
    · split <;> simp

/-- The pieces between slashes, empty ones included, of bytes around a slash. -/
theorem cut_append_slash (front back : Bytes) :
    steps.cut (front ++ slash :: back) = steps.cut front ++ steps.cut back := by
  induction front with
  | nil => rfl
  | cons b rest inductionHypothesis =>
    rw [List.cons_append, steps.cut, steps.cut]
    split
    · rw [inductionHypothesis, List.cons_append]
    · rw [inductionHypothesis]
      cases pieces : steps.cut rest with
      | nil => exact absurd pieces (cut_ne_nil rest)
      | cons name names => rfl

theorem steps_append_slash (front back : Bytes) :
    steps ⟨front ++ slash :: back⟩ = steps ⟨front⟩ ++ steps ⟨back⟩ := by
  simp only [steps, cut_append_slash, List.filter_append]

/-- Bytes without a slash are one piece. -/
theorem cut_of_whole {bytes : Bytes} (whole : slash ∉ bytes) : steps.cut bytes = [bytes] := by
  induction bytes with
  | nil => rfl
  | cons b rest inductionHypothesis =>
    rw [List.mem_cons, not_or] at whole
    have other : (b == slash) = false := beq_false_of_ne (Ne.symm whole.1)
    rw [steps.cut, other, inductionHypothesis whole.2]
    rfl

/-- A name is one step. -/
theorem steps_of_name (nonempty : name ≠ []) (whole : slash ∉ name) :
    steps ⟨name⟩ = [name] := by
  rw [steps, cut_of_whole whole]
  cases name with
  | nil => contradiction
  | cons b rest => rfl

/-- The steps of a path that a relative one is joined to come before the steps of that one. -/
theorem steps_join {base : Path} (isRelative : path.isAbsolute = false) :
    (base.join path).steps = base.steps ++ path.steps := by
  unfold join
  rw [isRelative]
  simp only [Bool.false_eq_true, if_false]
  split
  · next ended =>
    rcases Bool.or_eq_true_iff.mp ended with empty | slashed
    · have nothing : base.bytes = [] := List.isEmpty_iff.mp empty
      simp [steps, nothing, steps.cut]
    · obtain ⟨front, shape⟩ := List.getLast?_eq_some_iff.mp (by simpa using slashed)
      have cutBase : base.steps = steps ⟨front⟩ := by
        have shaped : base = ⟨front ++ slash :: []⟩ := congrArg Path.mk shape
        rw [shaped, steps_append_slash]
        simp [steps, steps.cut]
      rw [shape, List.append_assoc, List.singleton_append, steps_append_slash, ← cutBase]
  · rw [steps_append_slash]

theorem isAbsolute_join {base : Path} (isRelative : path.isAbsolute = false) :
    (base.join path).isAbsolute = base.isAbsolute := by
  unfold join
  rw [isRelative]
  simp only [Bool.false_eq_true, if_false]
  cases shape : base.bytes with
  | nil => simpa [isAbsolute, shape] using isRelative
  | cons b rest =>
    split <;> simp [isAbsolute, shape]

/-! ### Parents -/

theorem head?_trimBack (back : Bytes) : (trimBack back).head? ≠ some slash := by
  fun_induction trimBack back with
  | case1 => simp
  | case2 last before isSlash inductionHypothesis => exact inductionHypothesis
  | case3 last before notSlash isDot inductionHypothesis => exact inductionHypothesis
  | case4 last before notSlash notDot => simpa using notSlash

/-- What is left is not a `.` component. -/
theorem trimBack_ne_dot {back before : Bytes} (left : trimBack back = dot :: before) :
    before ≠ [] ∧ before.head? ≠ some slash := by
  fun_induction trimBack back with
  | case1 => contradiction
  | case2 last others isSlash inductionHypothesis => exact inductionHypothesis left
  | case3 last others notSlash isDot inductionHypothesis => exact inductionHypothesis left
  | case4 last others notSlash notDot =>
    obtain ⟨rfl, rfl⟩ := List.cons.inj left
    simpa using notDot

/-- Where a dot is a component, nothing stands before it, or a slash that is passed over too. -/
theorem passed_before_dot {before passed : Bytes} (shape : before = passed ++ trimBack before)
    (ended : (before.isEmpty || before.head? == some slash) = true) :
    passed = [] ∧ trimBack before = [] ∨ ∃ others, passed = slash :: others := by
  cases passed with
  | nil =>
    rw [List.nil_append] at shape
    have notLed := head?_trimBack before
    rw [← shape] at notLed
    simp only [Bool.or_eq_true, List.isEmpty_iff, beq_iff_eq, notLed, or_false] at ended
    exact .inl ⟨rfl, by rw [← shape, ended]⟩
  | cons first others =>
    rw [shape] at ended
    exact .inr ⟨others, by simpa using ended⟩

/-- What is passed over at the end of a path is nothing but `.` components. Seen from behind it ends in
the slash that follows what is left. -/
theorem trimBack_split (back : Bytes) :
    ∃ passed, back = passed ++ trimBack back ∧
      (passed = [] ∨ trimBack back = [] ∨ ∃ others, passed = others ++ [slash]) ∧
      ∀ step ∈ steps ⟨passed.reverse⟩, step = [dot] := by
  fun_induction trimBack back with
  | case1 => exact ⟨[], rfl, .inl rfl, by simp [steps, steps.cut]⟩
  | case2 last before isSlash inductionHypothesis =>
    obtain ⟨passed, shape, ends, dots⟩ := inductionHypothesis
    obtain rfl : last = slash := by simpa using isSlash
    refine ⟨slash :: passed, congrArg (slash :: ·) shape, .inr ?_, ?_⟩
    · rcases ends with rfl | nothing | ⟨others, rfl⟩
      · exact .inr ⟨[], rfl⟩
      · exact .inl nothing
      · exact .inr ⟨slash :: others, rfl⟩
    · rw [List.reverse_cons, steps_append_slash]
      intro step member
      exact dots step (by simpa [steps, steps.cut] using member)
  | case3 last before notSlash isDot inductionHypothesis =>
    obtain ⟨passed, shape, ends, dots⟩ := inductionHypothesis
    rw [Bool.and_eq_true, beq_iff_eq] at isDot
    obtain ⟨rfl, ended⟩ := isDot
    have led := passed_before_dot shape ended
    refine ⟨dot :: passed, congrArg (dot :: ·) shape, .inr ?_, ?_⟩
    · rcases led with ⟨-, nothing⟩ | ⟨others, rfl⟩
      · exact .inl nothing
      · rcases ends with impossible | nothing | ⟨front, back⟩
        · contradiction
        · exact .inl nothing
        · exact .inr ⟨dot :: front, congrArg (dot :: ·) back⟩
    · rcases led with ⟨rfl, -⟩ | ⟨others, rfl⟩
      · simp [steps, steps.cut, dot, slash]
      · rw [List.reverse_cons, List.reverse_cons, List.append_assoc, List.singleton_append,
          steps_append_slash]
        rw [List.reverse_cons, steps_append_slash] at dots
        intro step member
        rcases List.mem_append.mp member with above | here
        · exact dots step (List.mem_append_left _ above)
        · simpa [steps, steps.cut, dot, slash] using here
  | case4 last before notSlash notDot => exact ⟨[], rfl, .inl rfl, by simp [steps, steps.cut]⟩

theorem backComponent_append_backRest (back : Bytes) : backComponent back ++ backRest back = back :=
  List.takeWhile_append_dropWhile

theorem slash_not_mem_backComponent (back : Bytes) : slash ∉ backComponent back := by
  intro member
  have other := List.mem_takeWhile_imp member
  simp at other

theorem backRest_shape (back : Bytes) : backRest back = [] ∨ (backRest back).head? = some slash := by
  cases rest : backRest back with
  | nil => exact .inl rfl
  | cons b others =>
    right
    have notOther := List.head?_dropWhile_not (· != slash) back
    rw [← backRest, rest] at notOther
    simpa using notOther

/-- What is left of a path ends in a component that is not `.`. -/
theorem backComponent_trimBack {back : Bytes} (left : trimBack back ≠ []) :
    backComponent (trimBack back) ≠ [] ∧ backComponent (trimBack back) ≠ [dot] := by
  have halves := backComponent_append_backRest (trimBack back)
  have led := backRest_shape (trimBack back)
  constructor
  · intro nothing
    rw [nothing, List.nil_append] at halves
    rw [halves] at led
    exact led.elim left (head?_trimBack back)
  · intro single
    rw [single] at halves
    obtain ⟨some, notSlash⟩ := trimBack_ne_dot halves.symm
    exact led.elim some notSlash

/-- A path in parts: what stands before its last component, that component, and what is passed over
behind it. -/
theorem parts_of_back {bytes passed back : Bytes} (shape : bytes.reverse = passed ++ back) :
    bytes = (backRest back).reverse ++ ((backComponent back).reverse ++ passed.reverse) := by
  rw [← List.append_assoc, ← List.reverse_append, backComponent_append_backRest,
    ← List.reverse_append, ← shape, List.reverse_reverse]

/-- The bytes before the first component that can be dropped are no component themselves, or they
are the dot of a path that starts at the current directory. -/
theorem bodyStart_cases (path : Path) :
    (path.bodyStart = 0 ∧ path.isAbsolute = false) ∨
      (∃ rest, path.bytes = slash :: rest ∧ path.bodyStart = 1) ∨
      (path.bytes = [dot] ∨ ∃ rest, path.bytes = dot :: slash :: rest) ∧ path.bodyStart = 1 := by
  obtain ⟨bytes⟩ := path
  cases bytes with
  | nil => exact .inl ⟨rfl, rfl⟩
  | cons first rest =>
    by_cases isSlash : first = slash
    · exact .inr (.inl ⟨rest, by rw [isSlash], by simp [bodyStart, isSlash]⟩)
    · by_cases isDot : first = dot
      · cases rest with
        | nil => exact .inr (.inr ⟨.inl (by rw [isDot]), by simp [bodyStart, isDot]⟩)
        | cons second others =>
          by_cases led : second = slash
          · exact .inr (.inr ⟨.inr ⟨others, by rw [isDot, led]⟩, by simp [bodyStart, isDot, led]⟩)
          · exact .inl ⟨by simp [bodyStart, isSlash, led], by simp [isAbsolute, isSlash]⟩
      · exact .inl ⟨by simp [bodyStart, isSlash, isDot], by simp [isAbsolute, isSlash]⟩

/-- A path is its parent and what follows it, which starts with a slash unless nothing but the start
of the path is left. -/
theorem parent_shape (named : path.lastComponent?.isSome) (found : path.parent? = some parent) :
    ∃ left tail, parent.bytes = path.bytes.take path.bodyStart ++ left ∧
      path.bytes = parent.bytes ++ tail ∧ (left = [] ∨ ∃ rest, tail = slash :: rest) := by
  obtain ⟨component, isLast⟩ := Option.isSome_iff_exists.mp named
  unfold parent? at found
  rw [isLast] at found
  obtain rfl := Option.some.inj found
  generalize start : path.bodyStart = n
  generalize body : path.bytes.drop n = bytes
  obtain ⟨passed, shape, -, -⟩ := trimBack_split bytes.reverse
  generalize trimBack bytes.reverse = back at shape
  obtain ⟨passedAbove, shapeAbove, ends, -⟩ := trimBack_split (backRest back)
  have notLed := head?_trimBack (backRest back)
  have led := backRest_shape back
  generalize trimBack (backRest back) = left at shapeAbove ends notLed
  refine ⟨left.reverse,
    passedAbove.reverse ++ (backComponent back).reverse ++ passed.reverse, rfl, ?_, ?_⟩
  · have forward : bytes = left.reverse ++
        (passedAbove.reverse ++ (backComponent back).reverse ++ passed.reverse) := by
      rw [parts_of_back shape, shapeAbove]
      simp
    rw [List.append_assoc, ← forward, ← body, List.take_append_drop]
  · rcases ends with rfl | rfl | ⟨others, rfl⟩
    · left
      rcases led with nothing | isSlash
      · rw [nothing] at shapeAbove
        rw [← List.nil_append left, ← shapeAbove, List.reverse_nil]
      · rw [shapeAbove, List.nil_append] at isSlash
        exact absurd isSlash notLed
    · exact .inl rfl
    · exact .inr ⟨others.reverse ++ (backComponent back).reverse ++ passed.reverse, by simp⟩

/-- The steps of a parent are the first ones of the path, and they start at the same place. -/
theorem steps_parent (found : path.parent? = some parent) :
    parent.steps <+: path.steps ∧ parent.isAbsolute = path.isAbsolute := by
  cases isLast : path.lastComponent? with
  | some component =>
    obtain ⟨left, tail, start, whole, cut⟩ := parent_shape (by simp [isLast]) found
    have slashed (rest : Bytes) (shape : path.bytes = parent.bytes ++ slash :: rest) :
        parent.steps <+: path.steps := by
      have both : path.steps = steps ⟨parent.bytes ++ slash :: rest⟩ := by rw [← shape]
      rw [both, steps_append_slash]
      exact List.prefix_append _ _
    have sameStart (nonempty : parent.bytes ≠ []) : parent.isAbsolute = path.isAbsolute := by
      rw [isAbsolute, isAbsolute, whole, List.head?_append_of_ne_nil _ nonempty]
    by_cases nothing : left = []
    · rw [nothing, List.append_nil] at start
      rcases bodyStart_cases path with
        ⟨atStart, isRelative⟩ | ⟨rest, rooted, atStart⟩ | ⟨dotted, atStart⟩
      · have empty : parent = ⟨[]⟩ := congrArg Path.mk (by rw [start, atStart, List.take_zero])
        rw [empty, isRelative]
        exact ⟨List.nil_prefix, rfl⟩
      · have root : parent = ⟨[slash]⟩ := congrArg Path.mk (by rw [start, atStart, rooted]; rfl)
        exact ⟨root ▸ List.nil_prefix, sameStart (by simp [root])⟩
      · rcases dotted with alone | ⟨rest, led⟩
        · have here : path = ⟨[dot]⟩ := congrArg Path.mk alone
          simp [here, lastComponent?, bodyStart, slash, dot, trimBack] at isLast
        · have dot : parent.bytes = [dot] := by rw [start, atStart, led]; rfl
          exact ⟨slashed rest (by rw [dot, led]; rfl), sameStart (by simp [dot])⟩
    · obtain ⟨rest, rfl⟩ := cut.resolve_left nothing
      have nonempty : parent.bytes ≠ [] := by simp [start, nothing]
      exact ⟨slashed rest whole, sameStart nonempty⟩
  | none =>
    unfold parent? at found
    rw [isLast] at found
    simp only at found
    split at found
    · contradiction
    · next isRelative =>
      obtain rfl := Option.some.inj found
      simp only [Bool.or_eq_true, not_or, Bool.not_eq_true] at isRelative
      exact ⟨List.nil_prefix, isRelative.1.symm⟩

/-! ### Names -/

/-- What stands before the last component is nothing or ends in a slash. -/
theorem before_component {passed back : Bytes}
    (shape : (path.bytes.drop path.bodyStart).reverse = passed ++ back)
    (named : backComponent back ≠ []) :
    path.bytes.take path.bodyStart ++ (backRest back).reverse = [] ∨
      ∃ front, path.bytes.take path.bodyStart ++ (backRest back).reverse = front ++ [slash] := by
  have parts := parts_of_back shape
  rcases backRest_shape back with nothing | isSlash
  · rw [nothing, List.reverse_nil, List.nil_append] at parts
    rw [nothing, List.reverse_nil, List.append_nil]
    rcases bodyStart_cases path with
      ⟨atStart, -⟩ | ⟨rest, rooted, atStart⟩ | ⟨alone | ⟨rest, led⟩, atStart⟩
    · exact .inl (by rw [atStart, List.take_zero])
    · exact .inr ⟨[], by rw [atStart, rooted]; rfl⟩
    · rw [atStart, alone] at parts
      simp [named] at parts
    · -- The body starts with a slash, which belongs to no name.
      rw [atStart, led] at parts
      have first := congrArg List.head? parts
      rw [List.head?_append_of_ne_nil _ (by simpa using named)] at first
      have member := List.mem_of_head? first.symm
      exact absurd (List.mem_reverse.mp member) (slash_not_mem_backComponent back)
  · obtain ⟨rest, led⟩ := List.head?_eq_some_iff.mp isSlash
    exact .inr ⟨path.bytes.take path.bodyStart ++ rest.reverse, by simp [led]⟩

/-- The last component of a path with what stands around it: nothing or a slash before it, nothing or
a slash behind it, and then `.` components only. -/
theorem lastComponent?_shape {before : Bytes} (isLast : path.lastComponent? = some (before, name)) :
    name ≠ [] ∧ name ≠ [dot] ∧ slash ∉ name ∧
      (before = [] ∨ ∃ front, before = front ++ [slash]) ∧
      ∃ tail, path.bytes = before ++ (name ++ tail) ∧ (tail = [] ∨ ∃ rest, tail = slash :: rest) ∧
        ∀ step ∈ steps ⟨tail⟩, step = [dot] := by
  unfold lastComponent? at isLast
  simp only at isLast
  split at isLast
  · contradiction
  · next notEmpty =>
    obtain ⟨rfl, rfl⟩ := by simpa using isLast
    obtain ⟨passed, shape, ends, dots⟩ := trimBack_split (path.bytes.drop path.bodyStart).reverse
    have left : trimBack (path.bytes.drop path.bodyStart).reverse ≠ [] := by simpa using notEmpty
    obtain ⟨named, notDot⟩ := backComponent_trimBack left
    refine ⟨by simpa using named, by simpa [List.reverse_eq_iff] using notDot,
      by simpa using slash_not_mem_backComponent _, before_component shape named,
      passed.reverse, ?_, ?_, dots⟩
    · rw [List.append_assoc, ← parts_of_back shape, List.take_append_drop]
    · rcases ends with rfl | nothing | ⟨others, rfl⟩
      · exact .inl rfl
      · exact absurd nothing left
      · exact .inr ⟨others.reverse, by simp⟩

/-- The last component of a path is the last of its steps but for `.` steps behind it. -/
theorem steps_of_lastComponent? {before : Bytes}
    (isLast : path.lastComponent? = some (before, name)) :
    ∃ front dots, path.steps = front ++ name :: dots ∧ (∀ step ∈ dots, step = [dot]) ∧
      name ≠ [dot] := by
  obtain ⟨nonempty, notDot, whole, above, tail, shape, behind, dots⟩ := lastComponent?_shape isLast
  have ending : steps ⟨name ++ tail⟩ = name :: steps ⟨tail⟩ := by
    rcases behind with rfl | ⟨rest, rfl⟩
    · rw [List.append_nil, steps_of_name nonempty whole]
      rfl
    · rw [steps_append_slash, steps_of_name nonempty whole, ← List.nil_append (slash :: rest),
        steps_append_slash]
      rfl
  have path_eq : path = ⟨before ++ (name ++ tail)⟩ := congrArg Path.mk shape
  refine ⟨steps ⟨before⟩, steps ⟨tail⟩, ?_, dots, notDot⟩
  rw [path_eq, ← ending]
  rcases above with rfl | ⟨front, rfl⟩
  · rfl
  · rw [List.append_assoc, List.singleton_append, steps_append_slash, steps_append_slash]
    simp [steps, steps.cut]

/-- The last name of a path is the last of its steps but for `.` steps behind it, and it is a name:
neither empty nor `.` nor `..`, and without a slash. -/
theorem steps_of_fileName? (named : path.fileName? = some name) :
    ∃ front dots, path.steps = front ++ name :: dots ∧ (∀ step ∈ dots, step = [dot]) ∧
      name ≠ [] ∧ name ≠ [dot] ∧ name ≠ dotDot ∧ slash ∉ name := by
  obtain ⟨⟨before, component⟩, kept, rfl⟩ := Option.map_eq_some_iff.mp named
  obtain ⟨isLast, notUp⟩ := Option.filter_eq_some_iff.mp kept
  obtain ⟨front, dots, shape, behind, notDot⟩ := steps_of_lastComponent? isLast
  obtain ⟨nonempty, -, whole, -⟩ := lastComponent?_shape isLast
  exact ⟨front, dots, shape, behind, nonempty, notDot, by simpa using notUp, whole⟩

/-- A path without a last component has no steps but `.` steps. -/
theorem steps_of_lastComponent?_eq_none (nameless : path.lastComponent? = none) :
    ∀ step ∈ path.steps, step = [dot] := by
  have passedOver : trimBack (path.bytes.drop path.bodyStart).reverse = [] := by
    unfold lastComponent? at nameless
    simpa using nameless
  obtain ⟨passed, shape, -, dots⟩ := trimBack_split (path.bytes.drop path.bodyStart).reverse
  rw [passedOver, List.append_nil] at shape
  rw [← shape, List.reverse_reverse] at dots
  obtain ⟨bytes⟩ := path
  rcases bodyStart_cases ⟨bytes⟩ with
    ⟨atStart, -⟩ | ⟨rest, rooted, atStart⟩ | ⟨alone | ⟨rest, led⟩, -⟩
  · rwa [atStart] at dots
  · obtain rfl : bytes = slash :: rest := rooted
    rw [atStart] at dots
    rw [← List.nil_append (slash :: rest), steps_append_slash]
    exact dots
  · obtain rfl : bytes = [dot] := alone
    rw [steps_of_name (by decide) (by decide)]
    simp
  · obtain rfl : bytes = [dot] ++ slash :: rest := led
    rw [steps_append_slash, steps_of_name (by decide) (by decide)]
    have start : bodyStart ⟨[dot] ++ slash :: rest⟩ = 1 := rfl
    rw [start] at dots
    have behind : steps ⟨slash :: rest⟩ = steps ⟨rest⟩ := steps_append_slash [] rest
    simpa [behind] using dots

/-- Nothing is left of `.` steps where those are left out. -/
theorem filter_dots {dots : List Bytes} (isDots : ∀ step ∈ dots, step = [dot]) :
    dots.filter (· != [dot]) = [] :=
  List.filter_eq_nil_iff.mpr fun step member => by simp [isDots step member]

/-- The last step of a path that is more than `.`. -/
def lastStep? (path : Path) : Option Bytes := (path.steps.filter (· != [dot])).getLast?

/-- The last component of a path is found among its steps. -/
theorem lastStep?_eq_lastComponent? (path : Path) :
    path.lastStep? = path.lastComponent?.map (·.2) := by
  unfold lastStep?
  cases isLast : path.lastComponent? with
  | none =>
    rw [filter_dots (steps_of_lastComponent?_eq_none isLast)]
    rfl
  | some component =>
    obtain ⟨before, name⟩ := component
    obtain ⟨front, dots, shape, behind, notDot⟩ := steps_of_lastComponent? isLast
    rw [shape, List.filter_append, List.filter_cons_of_pos (by simpa using notDot), filter_dots behind,
      List.getLast?_concat]
    rfl

/-- The name at the end of a path is its last step, unless that leads up. -/
theorem fileName?_eq_lastStep? (path : Path) :
    path.fileName? = path.lastStep?.filter (· != dotDot) := by
  rw [lastStep?_eq_lastComponent?, fileName?, splitName?]
  cases path.lastComponent? with
  | none => rfl
  | some component => simp [Option.filter_some, apply_ite]

/-- The last step of a path stays the last where the path is joined to a directory. -/
theorem lastStep?_join {step : Bytes} (isLast : path.lastStep? = some step) (directory : Path) :
    (directory.join path).lastStep? = some step := by
  cases start : path.isAbsolute with
  | true => rwa [join, start, if_pos rfl]
  | false =>
    rw [lastStep?, steps_join start, List.filter_append, List.getLast?_append]
    rw [lastStep?] at isLast
    rw [isLast]
    rfl

/-- A path ends in the same name from every directory. -/
theorem fileName?_join_path (named : path.fileName? = some name) (directory : Path) :
    (directory.join path).fileName? = some name := by
  rw [fileName?_eq_lastStep?, Option.filter_eq_some_iff] at named ⊢
  obtain ⟨isLast, notUp⟩ := named
  exact ⟨lastStep?_join isLast directory, notUp⟩

end FfiBindings.Path
