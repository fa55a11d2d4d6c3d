import FfiBindings.Proofs.Trees

/-!
# Removing a file

With a file all that is listed below it is removed, but no path leads there: a path leads through
directories only. So whatever path could open a file for writing can open one after the old file was
removed, and finds nothing there.
-/

namespace FfiBindings.FileSystem

variable {files : FileSystem} {working place target location above : Location} {path : Path}
  {name : Bytes}

theorem lookup_filter (entries : List (Location × Entry)) (keep : Location → Bool)
    (location : Location) :
    (entries.filter fun listed => keep listed.1).lookup location =
      if keep location then entries.lookup location else none := by
  induction entries with
  | nil => simp
  | cons listed rest inductionHypothesis =>
    obtain ⟨here, entry⟩ := listed
    by_cases same : location = here
    · subst same
      cases kept : keep location <;> simp [kept, inductionHypothesis]
    · cases kept : keep here <;>
        simp [List.lookup_cons, kept, beq_false_of_ne same, inductionHypothesis]

/-- Nothing is left at a removed location and below it, and everything else is. -/
theorem entryAt?_remove (files : FileSystem) (inside : location ≠ []) (other : Location) :
    (files.remove location).entryAt? other =
      if location <:+ other then none else files.entryAt? other := by
  have below : location.isSuffixOf other = decide (location <:+ other) := by
    rw [Bool.eq_iff_iff, List.isSuffixOf_iff_suffix, decide_eq_true_iff]
  unfold entryAt? remove
  rw [lookup_filter files.entries fun listed => !location.isSuffixOf listed, below]
  by_cases root : other = []
  · simp [root, inside]
  · by_cases isBelow : location <:+ other <;> simp [root, isBelow]

theorem entryAt?_remove_of_apart (inside : location ≠ []) (apart : ¬ location <:+ place) :
    (files.remove location).entryAt? place = files.entryAt? place := by
  rw [entryAt?_remove files inside, if_neg apart]

/-- Steps that lead to a directory start at one. -/
theorem directory_of_descend {steps : List Bytes} (reached : files.descend place steps = .ok target)
    (directory : files.entryAt? target = some .directory) :
    files.entryAt? place = some .directory := by
  cases steps with
  | nil => rwa [Except.ok.inj reached]
  | cons name rest =>
    obtain ⟨next, stepped, -⟩ := descend_inv reached
    exact (step_eq_ok stepped).1

/-- A step to a directory does not lead below a file. -/
theorem stepFrom_apart (isFile : files.kindAt? location = some false)
    (apart : ¬ location <:+ place)
    (directory : files.entryAt? (stepFrom place name) = some .directory) :
    ¬ location <:+ stepFrom place name := by
  unfold stepFrom at directory ⊢
  split
  · exact apart
  · next notDot =>
    split
    · exact fun below => apart (below.trans (List.tail_suffix place))
    · next notUp =>
      rw [if_neg notDot, if_neg notUp] at directory
      intro below
      rcases List.suffix_cons_iff.mp below with rfl | further
      · rw [kindAt?_eq_true_iff.mpr directory] at isFile
        contradiction
      · exact apart further

/-- The way to a directory stays when a file is removed. -/
theorem descend_remove {steps : List Bytes} (isFile : files.kindAt? location = some false)
    (inside : location ≠ []) (apart : ¬ location <:+ place)
    (reached : files.descend place steps = .ok target)
    (directory : files.entryAt? target = some .directory) :
    (files.remove location).descend place steps = .ok target ∧ ¬ location <:+ target := by
  induction steps generalizing place with
  | nil =>
    obtain rfl := Except.ok.inj reached
    exact ⟨rfl, apart⟩
  | cons name rest inductionHypothesis =>
    obtain ⟨next, stepped, -, onwards⟩ := descend_inv reached
    obtain ⟨-, rfl⟩ := step_eq_ok stepped
    have nextDirectory := directory_of_descend onwards directory
    have nextApart := stepFrom_apart isFile apart nextDirectory
    have sameStep : (files.remove location).step place name = .ok (stepFrom place name) := by
      rw [← stepped]
      apply step_congr
      rw [kindAt?, kindAt?, entryAt?_remove_of_apart inside apart]
    have nextKind : (files.remove location).kindAt? (stepFrom place name) = some true := by
      rw [kindAt?_eq_true_iff, entryAt?_remove_of_apart inside nextApart, nextDirectory]
    rw [descend_cons sameStep, nextKind]
    exact inductionHypothesis nextApart onwards

/-- A name from the root on stays one when its file is removed. -/
theorem Names.remove (named : files.Names working path above name)
    (absolute : path.isAbsolute = true) (isFile : files.kindAt? (name :: above) = some false) :
    (files.remove (name :: above)).Names working path above name := by
  have inside : name :: above ≠ [] := List.cons_ne_nil name above
  have start : origin working path = [] := if_pos absolute
  have atRoot : ¬ name :: above <:+ origin working path := by simp [start]
  obtain ⟨reached, apart⟩ := descend_remove isFile inside atRoot named.reached named.inside
  exact { named with
    reached := reached
    inside := (entryAt?_remove_of_apart inside apart).trans named.inside }

end FfiBindings.FileSystem
