import FfiBindings.Proofs.WorkingPaths

/-!
# Names in a directory

A name that is joined to a directory stands at the end of the path. So it is found there again, its
stem is that of the path, and a new extension makes another name in the same directory. The parent of
the path is the directory, as paths are compared: repeated slashes, slashes at the end and `.`
components do not matter, but for a `.` that a relative path starts with. Where the directory is there, a
file of the name can be opened in it, unless a directory bears that name.
-/

namespace FfiBindings.Path

open FileSystem (isName destination)

variable {path : Path} {name stem extension before : Bytes}

theorem isName_iff :
    isName name = true ↔ name ≠ [] ∧ name ≠ [dot] ∧ name ≠ dotDot ∧ slash ∉ name := by
  simp [isName, and_assoc]

/-- A name with a dot in it names an entry unless it has hardly anything else. -/
theorem isName_append (long : 2 ≤ stem.length + extension.length) (whole : slash ∉ stem)
    (wholeExtension : slash ∉ extension) :
    isName (stem ++ dot :: extension) = true := by
  have longer : 3 ≤ (stem ++ dot :: extension).length := by
    rw [List.length_append, List.length_cons]
    omega
  refine isName_iff.mpr ⟨?_, ?_, ?_, ?_⟩
  · rintro none
    simp [none] at longer
  · rintro single
    simp [single] at longer
  · rintro up
    simp [up, dotDot] at longer
  · rw [List.mem_append, List.mem_cons, not_or, not_or]
    exact ⟨whole, by decide, wholeExtension⟩

theorem isAbsolute_name (named : isName name = true) : (⟨name⟩ : Path).isAbsolute = false := by
  obtain ⟨nonempty, -, -, whole⟩ := isName_iff.mp named
  cases name with
  | nil => contradiction
  | cons b rest =>
    rw [List.mem_cons, not_or] at whole
    simpa [isAbsolute] using Ne.symm whole.1

/-- A name is an entry of the directory that it is joined to. -/
theorem destination_join_name {working : Location} (named : isName name = true) (directory : Path) :
    destination working (directory.join ⟨name⟩) = name :: destination working directory := by
  obtain ⟨nonempty, notDot, notUp, whole⟩ := isName_iff.mp named
  exact FileSystem.destination_join directory nonempty whole notDot notUp

/-! ### What stands before a name -/

/-- Whether a name can follow some bytes of a path: there are none, or a slash ends them. -/
def AllowsName (before : Bytes) : Prop := before = [] ∨ ∃ rest, before = rest ++ [slash]

/-- The bytes of a directory with the slash that a name follows. -/
def beforeName (directory : Path) : Bytes :=
  if directory.bytes.isEmpty || directory.bytes.getLast? == some slash then directory.bytes
  else directory.bytes ++ [slash]

theorem allowsName_beforeName (directory : Path) : AllowsName directory.beforeName := by
  unfold beforeName
  split
  · next ended =>
    rcases Bool.or_eq_true_iff.mp ended with empty | slashed
    · exact .inl (List.isEmpty_iff.mp empty)
    · exact .inr (List.getLast?_eq_some_iff.mp (by simpa using slashed))
  · exact .inr ⟨_, rfl⟩

theorem join_of_relative (relative : path.isAbsolute = false) (directory : Path) :
    directory.join path = ⟨directory.beforeName ++ path.bytes⟩ := by
  unfold join beforeName
  rw [relative, if_neg Bool.false_ne_true]
  split
  · rfl
  · rw [List.append_assoc, List.singleton_append]

theorem join_name (named : isName name = true) (directory : Path) :
    directory.join ⟨name⟩ = ⟨directory.beforeName ++ name⟩ :=
  join_of_relative (isAbsolute_name named) directory

theorem beforeName_of_allows (allows : AllowsName before) : beforeName ⟨before⟩ = before := by
  rcases allows with rfl | ⟨rest, rfl⟩ <;> simp [beforeName]

theorem AllowsName.append {front : Bytes} (first : AllowsName front) (second : AllowsName before) :
    AllowsName (front ++ before) := by
  rcases second with rfl | ⟨rest, rfl⟩
  · rwa [List.append_nil]
  · exact .inr ⟨front ++ rest, by rw [List.append_assoc]⟩

/-- A name behind the path of another directory is a name in that directory. -/
theorem join_append_name (allows : AllowsName before) (named : isName name = true) (directory : Path) :
    directory.join ⟨before ++ name⟩ = (directory.join ⟨before⟩).join ⟨name⟩ := by
  have sameStart : isAbsolute ⟨before ++ name⟩ = isAbsolute ⟨before⟩ := by
    cases before with
    | nil => rw [List.nil_append, isAbsolute_name named]; rfl
    | cons b rest => rfl
  rw [join_name named]
  cases absolute : isAbsolute ⟨before⟩ with
  | true =>
    rw [join, sameStart, absolute, if_pos rfl, join, absolute, if_pos rfl, beforeName_of_allows allows]
  | false =>
    rw [join_of_relative (sameStart.trans absolute), join_of_relative absolute,
      beforeName_of_allows ((allowsName_beforeName directory).append allows), List.append_assoc]

/-- Behind a name there is nothing to pass over. -/
theorem trimBack_name (named : isName name = true) (back : Bytes) :
    trimBack (name.reverse ++ back) = name.reverse ++ back := by
  obtain ⟨nonempty, notDot, -, whole⟩ := isName_iff.mp named
  rw [← List.mem_reverse] at whole
  rcases shape : name.reverse with - | ⟨last, others⟩
  · exact absurd (List.reverse_eq_nil_iff.mp shape) nonempty
  · rw [shape, List.mem_cons, not_or] at whole
    have notSlash : (last == slash) = false := beq_false_of_ne (Ne.symm whole.1)
    have notLone : ¬ (last == dot && ((others ++ back).isEmpty ||
        (others ++ back).head? == some slash)) = true := by
      intro lone
      rw [Bool.and_eq_true, beq_iff_eq] at lone
      obtain ⟨rfl, ended⟩ := lone
      cases others with
      | nil => exact notDot (List.reverse_eq_iff.mp shape)
      | cons b rest =>
        have notLed : b ≠ slash := fun same => whole.2 (same ▸ List.mem_cons_self)
        simp [notLed] at ended
    rw [List.cons_append, trimBack, notSlash, if_neg notLone]
    rfl

theorem bodyStart_le (allows : AllowsName before) (named : isName name = true) :
    bodyStart ⟨before ++ name⟩ ≤ before.length := by
  obtain ⟨-, notDot, -, whole⟩ := isName_iff.mp named
  rcases allows with rfl | ⟨rest, rfl⟩
  · rcases bodyStart_cases ⟨[] ++ name⟩ with
      ⟨atStart, -⟩ | ⟨rest, rooted, -⟩ | ⟨alone | ⟨rest, led⟩, -⟩
    · exact atStart.le
    · obtain rfl : name = slash :: rest := rooted
      exact absurd List.mem_cons_self whole
    · exact absurd alone notDot
    · obtain rfl : name = dot :: slash :: rest := led
      exact absurd (List.mem_cons_of_mem _ List.mem_cons_self) whole
  · have small : bodyStart ⟨rest ++ [slash] ++ name⟩ ≤ 1 := by
      rcases bodyStart_cases ⟨rest ++ [slash] ++ name⟩ with
        ⟨atStart, -⟩ | ⟨-, -, atStart⟩ | ⟨-, atStart⟩ <;> omega
    rw [List.length_append, List.length_singleton]
    omega

/-- What is left of such bytes without a few in front still allows a name. -/
theorem AllowsName.drop (allows : AllowsName before) (n : Nat) : AllowsName (before.drop n) := by
  rcases allows with rfl | ⟨rest, rfl⟩
  · exact .inl List.drop_nil
  · rcases Nat.lt_or_ge rest.length n with beyond | inside
    · exact .inl (List.drop_eq_nil_of_le (by rw [List.length_append]; exact beyond))
    · exact .inr ⟨rest.drop n, List.drop_append_of_le_length inside⟩

/-- The body of a path that ends in a name, in reverse, with nothing passed over. -/
theorem trimBack_body (allows : AllowsName before) (named : isName name = true) :
    trimBack ((before ++ name).drop (bodyStart ⟨before ++ name⟩)).reverse =
      name.reverse ++ (before.drop (bodyStart ⟨before ++ name⟩)).reverse := by
  rw [List.drop_append_of_le_length (bodyStart_le allows named), List.reverse_append,
    trimBack_name named]

/-- Seen from behind a name goes up to the slash before it. -/
theorem backComponent_name (named : isName name = true) (allows : AllowsName before) :
    backComponent (name.reverse ++ before.reverse) = name.reverse ∧
      backRest (name.reverse ++ before.reverse) = before.reverse := by
  have whole : ∀ b ∈ name.reverse, (b != slash) = true := fun b member =>
    bne_iff_ne.mpr fun same => (isName_iff.mp named).2.2.2 (same ▸ List.mem_reverse.mp member)
  unfold backComponent backRest
  rw [List.takeWhile_append_of_pos whole, List.dropWhile_append_of_pos whole]
  rcases allows with rfl | ⟨rest, rfl⟩
  · exact ⟨List.append_nil _, rfl⟩
  · rw [List.reverse_concat]
    exact ⟨by simp, by simp⟩

/-- A name at the end of a path is its last component. -/
theorem lastComponent?_name (allows : AllowsName before) (named : isName name = true) :
    lastComponent? ⟨before ++ name⟩ = some (before, name) := by
  have nonempty : name ≠ [] := (isName_iff.mp named).1
  obtain ⟨component, rest⟩ := backComponent_name named (allows.drop (bodyStart ⟨before ++ name⟩))
  unfold lastComponent?
  simp only [trimBack_body allows named, component, rest, List.reverse_reverse]
  rw [if_neg (by simp [nonempty]), List.take_append_of_le_length (bodyStart_le allows named),
    List.take_append_drop]

theorem splitName?_name (allows : AllowsName before) (named : isName name = true) :
    splitName? ⟨before ++ name⟩ = some (before, name) := by
  have notUp : name ≠ dotDot := (isName_iff.mp named).2.2.1
  simp [splitName?, lastComponent?_name allows named, notUp]

/-- A name is the name of its own path. -/
theorem fileName?_name (named : isName name = true) : fileName? ⟨name⟩ = some name := by
  rw [fileName?, ← List.nil_append name, splitName?_name (.inl rfl) named]
  rfl

/-- A name is found again in the directory that it was joined to. -/
theorem fileName?_join (named : isName name = true) (directory : Path) :
    (directory.join ⟨name⟩).fileName? = some name :=
  fileName?_join_path (fileName?_name named) directory

/-! ### Stems and extensions -/

/-- The base name of a file with an extension. -/
theorem baseName?_of_fileName? {base : Text} (nonempty : base ≠ []) (single : dot ∉ extension)
    (isNamed : path.fileName? = some (Utf8.encode base ++ dot :: extension)) :
    path.baseName? = some base := by
  have encoded : Utf8.encode base ≠ [] := by
    intro none
    have decoded := Utf8.decode?_encode base
    rw [none] at decoded
    exact nonempty (Option.some.inj ((Utf8.decode?_encode []).symm.trans decoded)).symm
  rw [baseName?, fileStem?, isNamed, Option.map_some, stemOf_append encoded single, Option.map_some,
    Utf8.decodeLossy_encode]
  simpa using nonempty

theorem extensionOf?_append (nonempty : stem ≠ []) (single : dot ∉ extension) :
    extensionOf? (stem ++ dot :: extension) = some extension := by
  have behind : ∀ b ∈ extension.reverse, (b != dot) = true := fun b member =>
    bne_iff_ne.mpr fun same => single (same ▸ List.mem_reverse.mp member)
  unfold extensionOf?
  rw [stemOf_append nonempty single, List.reverse_append, List.reverse_cons, List.append_assoc,
    List.takeWhile_append_of_pos behind]
  simp

/-- A new extension makes another name in the same directory. The stem may not be a dot alone, since what
is left without the old extension would then lead up. -/
theorem withExtension_join (long : 2 ≤ stem.length) (whole : slash ∉ stem)
    (wholeExtension : slash ∉ extension) (single : dot ∉ extension) {new : Text} (wholeNew : '/' ∉ new)
    (directory : Path) :
    (directory.join ⟨stem ++ dot :: extension⟩).withExtension new =
      directory.join ⟨stem ++ dot :: Utf8.encode new⟩ := by
  have nonempty : stem ≠ [] := List.ne_nil_of_length_pos (by omega)
  have named := isName_append (Nat.le_add_right_of_le long) whole wholeExtension
  have allows := allowsName_beforeName directory
  -- Without its extension the name keeps the dot, and is a name still.
  have dropped : (directory.join ⟨stem ++ dot :: extension⟩).dropExtension =
      ⟨directory.beforeName ++ (stem ++ [dot])⟩ := by
    unfold dropExtension
    rw [fileName?_join named, join_name named, Option.bind_some, extensionOf?_append nonempty single]
    refine congrArg Path.mk ?_
    have cut : directory.beforeName ++ (stem ++ dot :: extension) =
        directory.beforeName ++ (stem ++ [dot]) ++ extension := by simp
    rw [cut, List.length_append, Nat.add_sub_cancel, List.take_left']
    rfl
  have stemName : isName (stem ++ [dot]) = true :=
    isName_append (Nat.le_add_right_of_le long) whole List.not_mem_nil
  unfold withExtension
  rw [dropped, splitName?_name allows stemName, join_name
    (isName_append (Nat.le_add_right_of_le long) whole (Utf8.slash_notMem_encode wholeNew))]
  simp only [stemOf_append nonempty (List.not_mem_nil : dot ∉ [])]
  rw [List.append_assoc]

/-! ### Parents -/

/-- The components of a path, by which paths are compared: whether it starts at the root, and its steps.
A `.` step counts only where a relative path starts with it. -/
def components (path : Path) : Bool × List Bytes :=
  let kept := path.steps.filter (· != [dot])
  (path.isAbsolute,
    if !path.isAbsolute && path.steps.head? == some [dot] then [dot] :: kept else kept)

/-- Further `.` steps make no difference behind a start. -/
theorem components_of_dots {other : Path} {dots : List Bytes}
    (start : other.isAbsolute = path.isAbsolute) (longer : other.steps = path.steps ++ dots)
    (isDots : ∀ step ∈ dots, step = [dot])
    (led : path.isAbsolute = true ∨ path.steps ≠ [] ∨ dots = []) :
    other.components = path.components := by
  have kept : other.steps.filter (· != [dot]) = path.steps.filter (· != [dot]) := by
    rw [longer, List.filter_append, filter_dots isDots, List.append_nil]
  unfold components
  rw [start, kept]
  rcases led with absolute | some | none
  · simp [absolute]
  · rw [longer, List.head?_append_of_ne_nil _ some]
  · rw [longer, none, List.append_nil]

/-- The first piece between slashes. -/
theorem head?_cut (bytes : Bytes) :
    (steps.cut bytes).head? = some (bytes.takeWhile (· != slash)) := by
  induction bytes with
  | nil => rfl
  | cons b rest inductionHypothesis =>
    rw [steps.cut]
    by_cases isSlash : b = slash
    · simp [isSlash]
    · rw [if_neg (by simpa using isSlash), List.takeWhile_cons_of_pos (by simpa using isSlash)]
      cases pieces : steps.cut rest with
      | nil => exact absurd pieces (cut_ne_nil rest)
      | cons name names =>
        rw [pieces, List.head?_cons] at inductionHypothesis
        rw [List.head?_cons, Option.some.inj inductionHypothesis]

/-- A relative path starts with its first step. -/
theorem head?_steps {b : UInt8} {rest : Bytes} (relative : b ≠ slash) :
    (steps ⟨b :: rest⟩).head? = some (b :: rest.takeWhile (· != slash)) := by
  have first := head?_cut (b :: rest)
  rw [List.takeWhile_cons_of_pos (by simpa using relative)] at first
  obtain ⟨names, pieces⟩ := List.head?_eq_some_iff.mp first
  rw [steps, pieces]
  rfl

theorem steps_cons_slash (rest : Bytes) : steps ⟨slash :: rest⟩ = steps ⟨rest⟩ :=
  steps_append_slash [] rest

/-- A slash and `.` steps at the end make no difference. -/
theorem components_append_slash {front rest : Bytes} (nonempty : front ≠ [])
    (dots : ∀ step ∈ steps ⟨rest⟩, step = [dot]) :
    components ⟨front ++ slash :: rest⟩ = components ⟨front⟩ := by
  refine components_of_dots ?_ (steps_append_slash front rest) dots ?_
  · rw [isAbsolute, isAbsolute, List.head?_append_of_ne_nil _ nonempty]
  · cases front with
    | nil => contradiction
    | cons b others =>
      by_cases isSlash : b = slash
      · exact .inl (by simp [isAbsolute, isSlash])
      · refine .inr (.inl fun none => ?_)
        have first := @head?_steps b others isSlash
        simp [none] at first

theorem components_beforeName (directory : Path) :
    components ⟨directory.beforeName⟩ = directory.components := by
  unfold beforeName
  split
  · rfl
  · next closed =>
    simp only [Bool.or_eq_true, not_or, List.isEmpty_iff] at closed
    exact components_append_slash closed.1 (by simp [steps, steps.cut])

/-- The parent of a path that ends in a name is what stands before the name, as far as it is not passed
over. -/
theorem parent?_name (allows : AllowsName before) (named : isName name = true) :
    parent? ⟨before ++ name⟩ = some ⟨before.take (bodyStart ⟨before ++ name⟩) ++
      (trimBack (before.drop (bodyStart ⟨before ++ name⟩)).reverse).reverse⟩ := by
  obtain ⟨-, rest⟩ := backComponent_name named (allows.drop (bodyStart ⟨before ++ name⟩))
  unfold parent?
  rw [lastComponent?_name allows named]
  simp only [trimBack_body allows named, rest,
    List.take_append_of_le_length (bodyStart_le allows named)]

theorem AllowsName.ne_dot (allows : AllowsName before) : before ≠ [dot] := by
  rintro rfl
  rcases allows with none | ⟨rest, shape⟩
  · contradiction
  · have last := congrArg List.getLast? shape
    rw [List.getLast?_concat] at last
    contradiction

/-- Before a name at the end of a path that starts at the current directory stands that start. -/
theorem AllowsName.exists_of_dotted (allows : AllowsName before) (named : isName name = true)
    (dotted : before ++ name = [dot] ∨ ∃ rest, before ++ name = dot :: slash :: rest) :
    ∃ others, before = dot :: slash :: others := by
  obtain ⟨nonempty, notDot, -, whole⟩ := isName_iff.mp named
  rcases before with - | ⟨b, - | ⟨c, others⟩⟩
  · rcases dotted with alone | ⟨rest, led⟩
    · exact absurd alone notDot
    · obtain rfl : name = dot :: slash :: rest := led
      exact absurd (List.mem_cons_of_mem _ List.mem_cons_self) whole
  · have first : b = dot := by
      rcases dotted with alone | ⟨rest, led⟩
      · exact (List.cons.inj alone).1
      · exact (List.cons.inj led).1
    exact absurd (congrArg (· :: []) first) allows.ne_dot
  · rcases dotted with alone | ⟨rest, led⟩
    · exact absurd (List.cons.inj alone).2 (by simp)
    · obtain ⟨rfl, tail⟩ := List.cons.inj led
      obtain rfl := (List.cons.inj tail).1
      exact ⟨others, rfl⟩

/-- Where nothing but `.` components follows the start of a path, only the start makes a difference. -/
theorem components_start (allows : AllowsName before) (named : isName name = true)
    (dots : ∀ step ∈ steps ⟨before.drop (bodyStart ⟨before ++ name⟩)⟩, step = [dot]) :
    components ⟨before.take (bodyStart ⟨before ++ name⟩)⟩ = components ⟨before⟩ := by
  obtain ⟨-, notDot, -, whole⟩ := isName_iff.mp named
  rcases bodyStart_cases ⟨before ++ name⟩ with
    ⟨atStart, relative⟩ | ⟨rest, rooted, atStart⟩ | ⟨dotted, atStart⟩
  · rw [atStart, List.drop_zero] at dots
    rw [atStart, List.take_zero]
    rcases before with - | ⟨b, others⟩
    · rfl
    · -- The first step would be a dot with a slash behind it, and then the path would start there.
      have notSlash : b ≠ slash := by simpa [isAbsolute] using relative
      have first := dots _ (List.mem_of_head? (head?_steps notSlash))
      obtain ⟨rfl, ended⟩ := List.cons.inj first
      rcases others with - | ⟨c, others⟩
      · exact absurd rfl allows.ne_dot
      · obtain rfl : c = slash := by simpa using ended
        simp [bodyStart, dot, slash] at atStart
  · rcases before with - | ⟨b, others⟩
    · obtain rfl : name = slash :: rest := rooted
      exact absurd List.mem_cons_self whole
    · obtain rfl : b = slash := (List.cons.inj rooted).1
      rw [atStart] at dots ⊢
      have same : components ⟨slash :: others⟩ = components ⟨[slash]⟩ :=
        components_of_dots rfl (steps_append_slash [] others) dots (.inl rfl)
      exact same.symm
  · obtain ⟨others, rfl⟩ := allows.exists_of_dotted named dotted
    rw [atStart] at dots ⊢
    rw [List.drop_one, List.tail_cons, steps_cons_slash] at dots
    exact (components_append_slash (List.cons_ne_nil dot []) dots).symm

/-- What is passed over before a name makes no difference. -/
theorem components_trimmed (allows : AllowsName before) (named : isName name = true) :
    components ⟨before.take (bodyStart ⟨before ++ name⟩) ++
      (trimBack (before.drop (bodyStart ⟨before ++ name⟩)).reverse).reverse⟩ =
      components ⟨before⟩ := by
  have start := components_start allows named
  generalize bodyStart ⟨before ++ name⟩ = n at start ⊢
  obtain ⟨passed, shape, ends, dots⟩ := trimBack_split (before.drop n).reverse
  generalize trimBack (before.drop n).reverse = left at shape ends
  have body : before.drop n = left.reverse ++ passed.reverse := by
    rw [← List.reverse_append, ← shape, List.reverse_reverse]
  have cut : before.take n ++ left.reverse ++ passed.reverse = before := by
    rw [List.append_assoc, ← body, List.take_append_drop]
  by_cases none : left = []
  · rw [none, List.reverse_nil, List.nil_append] at body
    rw [none, List.reverse_nil, List.append_nil]
    exact start (body ▸ dots)
  · rcases ends with rfl | nothing | ⟨others, rfl⟩
    · rw [List.reverse_nil, List.append_nil] at cut
      rw [cut]
    · exact absurd nothing none
    · rw [List.reverse_concat] at cut dots
      have front : before.take n ++ left.reverse ≠ [] := by simp [none]
      rw [steps_cons_slash] at dots
      rw [← components_append_slash front dots, cut]

/-- The parent of a name in a directory is the directory. -/
theorem components_parent_join (named : isName name = true) (directory : Path) :
    (directory.join ⟨name⟩).parent?.map components = some directory.components := by
  have allows := allowsName_beforeName directory
  rw [join_name named, parent?_name allows named, Option.map_some, components_trimmed allows named,
    components_beforeName]

end FfiBindings.Path

namespace FfiBindings.FileSystem

/-! ### Opening a name in a directory -/

variable {files : FileSystem} {working : Location} {path directory : Path} {name : Bytes}

end FfiBindings.FileSystem
