import FfiBindings.Proofs.Stamps
import FfiBindings.Proofs.Trees

/-!
# Trees that differ in their logs

Two trees are alike when they differ at most in what the log file holds after the stamp of some
record. Every access by path goes the same way in both and ends the same. Where it changes anything,
it changes both trees so that they stay alike; only reading the log tells them apart. Starting a program
reads no more than its beginning, so the same programs can be started in both.
-/

namespace FfiBindings.FileSystem

open Log (SharesStart stamp)

variable {log : Option Location} {clock : Clock} {files others : FileSystem} {working : Location}
  {path : Path}

/-- Trees that differ at most in what the log file holds after the stamp of some record. -/
def Alike (log : Option Location) (clock : Clock) (files others : FileSystem) : Prop :=
  ∀ location, files.entryAt? location = others.entryAt? location ∨
    log = some location ∧ ∃ content other executable,
      files.entryAt? location = some (.file content executable) ∧
        others.entryAt? location = some (.file other executable) ∧
        SharesStart clock content other

/-! ### Ways that depend on kinds of entries alone -/

theorem locate_congr (kinds : files.kindAt? = others.kindAt?) (working : Location) (path : Path) :
    files.locate working path = others.locate working path := by
  unfold locate
  rw [descend_congr kinds]
  cases checkPath path with
  | error fault => rfl
  | ok checked =>
    cases others.descend (origin working path) path.steps with
    | error fault => rfl
    | ok place =>
      rcases sameKind_cases (congrFun kinds place) with
        ⟨here, there⟩ | ⟨here, there⟩ | ⟨_, _, _, _, here, there⟩ <;>
          simp only [bind, Except.bind, here, there]

theorem locateNew_congr (kinds : files.kindAt? = others.kindAt?) (working : Location)
    (path : Path) : files.locateNew working path = others.locateNew working path := by
  unfold locateNew
  rw [descend_congr kinds]
  cases checkPath path with
  | error fault => rfl
  | ok checked =>
    cases others.descend (origin working path) path.steps.dropLast with
    | error fault => rfl
    | ok place =>
      rcases sameKind_cases (congrFun kinds place) with
        ⟨here, there⟩ | ⟨here, there⟩ | ⟨_, _, _, _, here, there⟩ <;>
          simp only [bind, Except.bind, here, there]

theorem isDirectory_congr (kinds : files.kindAt? = others.kindAt?) (location : Location) :
    files.isDirectory location = others.isDirectory location := by
  rw [Bool.eq_iff_iff, isDirectory, isDirectory, beq_iff_eq, beq_iff_eq, ← kindAt?_eq_true_iff,
    ← kindAt?_eq_true_iff, kinds]

theorem openFile_congr (kinds : files.kindAt? = others.kindAt?) (working : Location)
    (path : Path) : files.openFile working path = others.openFile working path := by
  unfold openFile
  rw [locateNew_congr kinds]
  cases others.locateNew working path with
  | error fault => rfl
  | ok found =>
    obtain ⟨place, last⟩ := found
    simp only [bind, Except.bind, step_congr (congrFun kinds place), isDirectory_congr kinds]

/-! ### Alike trees -/

namespace Alike

theorem refl (log : Option Location) (clock : Clock) (files : FileSystem) :
    Alike log clock files files := fun _ => .inl rfl

/-- Off the log alike trees are the same. -/
theorem sameBesides (alike : Alike log clock files others) : SameBesides log files others :=
  fun location off => ((alike location).resolve_right fun differs => off differs.1).symm

theorem kinds (alike : Alike log clock files others) : files.kindAt? = others.kindAt? := by
  funext location
  rcases alike location with same | ⟨-, content, other, executable, here, there, -⟩
  · rw [kindAt?, kindAt?, same]
  · rw [kindAt?, kindAt?, here, there]
    rfl

/-- The same entry put into both leaves them alike. -/
theorem put (alike : Alike log clock files others) {location : Location} (inside : location ≠ [])
    (entry : Entry) : Alike log clock (files.put location entry) (others.put location entry) := by
  intro other
  rw [entryAt?_put files _ _ _ inside, entryAt?_put others _ _ _ inside]
  split
  · exact .inl rfl
  · exact alike other

/-- Making a directory fails in both in the same way or succeeds in both. -/
theorem makeDirectory (alike : Alike log clock files others) (working : Location) (path : Path) :
    (∃ fault, files.makeDirectory working path = .error fault ∧
        others.makeDirectory working path = .error fault) ∨
      ∃ made otherMade, files.makeDirectory working path = .ok made ∧
        others.makeDirectory working path = .ok otherMade ∧ Alike log clock made otherMade := by
  unfold FileSystem.makeDirectory
  rw [← locateNew_congr alike.kinds]
  cases files.locateNew working path with
  | error fault => exact .inl ⟨fault, rfl, rfl⟩
  | ok found =>
    obtain ⟨place, last⟩ := found
    cases last with
    | none => exact .inl ⟨_, rfl, rfl⟩
    | some name =>
      simp only [bind, Except.bind, ← step_congr (congrFun alike.kinds place)]
      split
      · exact .inl ⟨_, rfl, rfl⟩
      · cases files.step place name with
        | error fault => exact .inl ⟨fault, rfl, rfl⟩
        | ok target =>
          simp only
          rcases sameKind_cases (congrFun alike.kinds target) with
            ⟨here, there⟩ | ⟨here, there⟩ | ⟨_, _, _, _, here, there⟩ <;> rw [here, there]
          · have inside : target ≠ [] := by
              rintro rfl
              simp [entryAt?] at here
            exact .inr ⟨_, _, rfl, rfl, alike.put inside .directory⟩
          · exact .inl ⟨_, rfl, rfl⟩
          · exact .inl ⟨_, rfl, rfl⟩

theorem isDirectory_follow? (alike : Alike log clock files others) (working : Location)
    (path : Path) :
    (files.follow? working path == some .directory) =
      (others.follow? working path == some .directory) := by
  unfold follow?
  rw [← locate_congr alike.kinds]
  cases files.locate working path with
  | error fault => rfl
  | ok place => exact isDirectory_congr alike.kinds place

theorem ensureDirectory (alike : Alike log clock files others) (working : Location) (path : Path) :
    (files.ensureDirectory working path).2 = (others.ensureDirectory working path).2 ∧
      Alike log clock (files.ensureDirectory working path).1
        (others.ensureDirectory working path).1 := by
  unfold FileSystem.ensureDirectory
  rw [alike.isDirectory_follow? working path]
  rcases alike.makeDirectory working path with
    ⟨fault, here, there⟩ | ⟨made, otherMade, here, there, still⟩ <;> rw [here, there]
  · dsimp only
    split <;> exact ⟨rfl, alike⟩
  · exact ⟨rfl, still⟩

/-- Making directories ends in the same way and leaves the trees alike. The induction is on how far up
parents are tried. -/
theorem makeDirectoriesUpTo (alike : Alike log clock files others) (working : Location) (fuel : Nat)
    (path : Path) :
    (makeDirectoriesUpTo working fuel files path).2 =
        (makeDirectoriesUpTo working fuel others path).2 ∧
      Alike log clock (makeDirectoriesUpTo working fuel files path).1
        (makeDirectoriesUpTo working fuel others path).1 := by
  induction fuel generalizing files others path with
  | zero => exact ⟨rfl, alike⟩
  | succ fuel inductionHypothesis =>
    rw [makeDirectoriesUpTo_succ, makeDirectoriesUpTo_succ]
    have ensured := alike.ensureDirectory working path
    split
    · exact ⟨rfl, alike⟩
    · rcases alike.makeDirectory working path with ⟨fault, here, there⟩ | ⟨_, _, here, there, -⟩ <;>
        rw [here, there]
      · cases fault
        case notFound =>
          dsimp only
          cases path.parent? with
          | none => exact ⟨rfl, alike⟩
          | some parent =>
            obtain ⟨sameEnd, upTo⟩ := inductionHypothesis alike parent
            dsimp only
            rcases ended : FileSystem.makeDirectoriesUpTo working fuel files parent with
              ⟨between, result⟩
            rcases otherEnded : FileSystem.makeDirectoriesUpTo working fuel others parent with
              ⟨otherBetween, otherResult⟩
            rw [ended, otherEnded] at sameEnd upTo
            obtain rfl : result = otherResult := sameEnd
            cases result with
            | error fault => exact ⟨rfl, upTo⟩
            | ok done => exact upTo.ensureDirectory working path
        all_goals exact ensured
      · exact ensured

/-- Making directories ends in the same way and leaves the trees alike. -/
theorem makeDirectories (alike : Alike log clock files others) (working : Location) (path : Path) :
    (files.makeDirectories working path).2 = (others.makeDirectories working path).2 ∧
      Alike log clock (files.makeDirectories working path).1
        (others.makeDirectories working path).1 :=
  alike.makeDirectoriesUpTo working (path.bytes.length + 1) path

/-- Reading a file that is not the log gives the same. -/
theorem readText (alike : Alike log clock files others)
    (off : log ≠ some (destination working path)) :
    files.readText working path = others.readText working path := by
  have same := alike.sameBesides _ off
  unfold FileSystem.readText read
  rw [← locate_congr alike.kinds]
  cases located : files.locate working path with
  | error fault => rfl
  | ok place =>
    obtain rfl := locate_eq_destination located
    simp only [bind, Except.bind, same]

/-- What files hold in both trees: the same, or the same up to a stamp. -/
theorem contentAt_cases (alike : Alike log clock files others) (location : Location) :
    ∃ content other executable, files.contentAt location = (content, executable) ∧
      others.contentAt location = (other, executable) ∧
      (content = other ∨ SharesStart clock content other) := by
  unfold contentAt
  rcases alike location with same | ⟨-, content, other, executable, here, there, shared⟩
  · rw [same]
    exact ⟨_, _, _, rfl, rfl, .inl rfl⟩
  · rw [here, there]
    exact ⟨content, other, executable, rfl, rfl, .inr shared⟩

/-- Writing fails in both in the same way or succeeds in both, and then leaves them alike. -/
theorem write (alike : Alike log clock files others) (working : Location) (path : Path)
    (content : Bytes) :
    (∃ fault, files.write working path content = .error fault ∧
        others.write working path content = .error fault) ∨
      ∃ written otherWritten, files.write working path content = .ok written ∧
        others.write working path content = .ok otherWritten ∧
        Alike log clock written otherWritten := by
  unfold FileSystem.write
  rw [← openFile_congr alike.kinds]
  cases opened : files.openFile working path with
  | error fault => exact .inl ⟨fault, rfl, rfl⟩
  | ok target =>
    obtain ⟨above, name, -, -, -, rfl⟩ := openFile_eq_ok_iff.mp opened
    refine .inr ⟨_, _, rfl, rfl, ?_⟩
    obtain ⟨old, otherOld, executable, here, there, -⟩ := alike.contentAt_cases (name :: above)
    rw [here, there]
    exact alike.put (List.cons_ne_nil name above) _

/-- Whether a path leads to a file, and with what mode, is the same in both. -/
theorem follow?_cases (alike : Alike log clock files others) (working : Location) (path : Path) :
    files.follow? working path = others.follow? working path ∨
      ∃ content other executable,
        files.follow? working path = some (.file content executable) ∧
          others.follow? working path = some (.file other executable) := by
  unfold follow?
  rw [← locate_congr alike.kinds]
  cases files.locate working path with
  | error fault => exact .inl rfl
  | ok place =>
    rcases alike place with same | ⟨-, content, other, executable, here, there, -⟩
    · exact .inl same
    · exact .inr ⟨content, other, executable, here, there⟩

/-- The log in both trees, where what it holds is the same up to a stamp. -/
theorem put_log (alike : Alike log clock files others) {location : Location}
    (isLog : log = some location) (inside : location ≠ []) {content other : Bytes}
    (shared : SharesStart clock content other) (executable : Bool) :
    Alike log clock (files.put location (.file content executable))
      (others.put location (.file other executable)) := by
  intro place
  rw [entryAt?_put files _ _ _ inside, entryAt?_put others _ _ _ inside]
  split
  · next here => exact .inr ⟨here ▸ isLog, content, other, executable, rfl, rfl, shared⟩
  · exact alike place

/-- Records added to the log in both trees leave them alike, however much of them fits. -/
theorem append (alike : Alike log clock files others) (isLog : log = some (destination working path))
    (limit : Option Nat) (record otherRecord : Bytes) :
    (∃ fault, files.append limit working path (stamp clock ++ record) = .error fault ∧
        others.append limit working path (stamp clock ++ otherRecord) = .error fault) ∨
      ∃ added otherAdded, files.append limit working path (stamp clock ++ record) = .ok added ∧
        others.append limit working path (stamp clock ++ otherRecord) = .ok otherAdded ∧
        Alike log clock added otherAdded := by
  have opensToo := openFile_congr alike.kinds working path
  cases opened : files.openFile working path with
  | error fault =>
    rw [opened] at opensToo
    exact .inl ⟨fault, by rw [FileSystem.append, opened]; rfl,
      by rw [FileSystem.append, ← opensToo]; rfl⟩
  | ok target =>
    obtain ⟨above, name, -, -, -, same⟩ := openFile_eq_ok_iff.mp opened
    have inside : target ≠ [] := same ▸ List.cons_ne_nil name above
    obtain rfl := openFile_eq_destination opened
    obtain ⟨old, otherOld, executable, here, there, held⟩ :=
      alike.contentAt_cases (destination working path)
    refine .inr ⟨_, _, append_of_openFile limit opened _,
      append_of_openFile limit (opensToo ▸ opened) _, ?_⟩
    rw [here, there]
    rcases held with rfl | shared
    · rcases fitting_cases limit old (stamp clock) with fits | ⟨cut, isCut, -⟩
      · rw [fits, fits]
        exact alike.put_log isLog inside (.of_record old _ _) executable
      · rw [isCut, isCut]
        exact alike.put inside _
    · exact alike.put_log isLog inside (shared.append _ _) executable

/-- Records added to one of the logs alone leave the trees alike when both bear a stamp already, or when
the other log is full. -/
theorem append_other (alike : Alike log clock files others)
    (isLog : log = some (destination working path)) {limit : Option Nat} {content : Bytes}
    {executable : Bool}
    (held : files.entryAt? (destination working path) = some (.file content executable))
    (settled : SharesStart clock content content ∨ ∀ more, fitting limit content.length more = [])
    {more : Bytes} {added : FileSystem}
    (done : others.append limit working path more = .ok added) : Alike log clock files added := by
  obtain ⟨opened, rfl⟩ := append_inv done
  obtain ⟨elsewhere, put, -, -⟩ := put_opened opened
    ((others.contentAt (destination working path)).1 ++
      fitting limit (others.contentAt (destination working path)).1.length more)
    (others.contentAt (destination working path)).2
  obtain ⟨old, otherOld, mode, here, there, kept⟩ := alike.contentAt_cases (destination working path)
  intro location
  by_cases isHere : location = destination working path
  · obtain ⟨rfl, rfl⟩ : content = old ∧ executable = mode := by simpa [contentAt, held] using here
    rw [isHere, held, put, there]
    have shares (shared : SharesStart clock content otherOld) :
        SharesStart clock content (otherOld ++ fitting limit otherOld.length more) := by
      simpa using shared.append [] (fitting limit otherOld.length more)
    rcases kept with rfl | shared
    · rcases settled with stamped | full
      · exact .inr ⟨isLog, content, _, executable, rfl, rfl, shares stamped⟩
      · left
        rw [full, List.append_nil]
    · exact .inr ⟨isLog, content, _, executable, rfl, rfl, shares shared⟩
  · rw [elsewhere location fun same => isHere (Option.some.inj same).symm]
    exact alike location

end Alike

end FfiBindings.FileSystem

namespace FfiBindings.Program

open FileSystem Log

variable {log : Option Location} {clock : Clock} {files others : FileSystem}

/-- The file that a path names as a program is the same in alike trees, and so is what decides about
running it. -/
theorem executableAt_alike (alike : Alike log clock files others) (directory : Location)
    (path : Path) :
    (∃ fault, executableAt files directory path = .error fault ∧
        executableAt others directory path = .error fault) ∨
      ∃ place content other, executableAt files directory path = .ok (place, content) ∧
        executableAt others directory path = .ok (place, other) ∧
        isMachineProgram content = isMachineProgram other ∧
        (interpreter? content).map (·.path.bytes) = (interpreter? other).map (·.path.bytes) := by
  unfold executableAt
  rw [← locate_congr alike.kinds]
  cases files.locate directory path with
  | error fault => exact .inl ⟨fault, rfl, rfl⟩
  | ok place =>
    simp only [bind, Except.bind]
    rcases alike place with same | ⟨-, content, other, executable, here, there, shared⟩
    · rw [same]
      split
      · next content found => exact .inr ⟨place, content, content, rfl, rfl, rfl, rfl⟩
      · exact .inl ⟨_, rfl, rfl⟩
      · exact .inl ⟨_, rfl, rfl⟩
    · rw [here, there]
      cases executable with
      | false => exact .inl ⟨_, rfl, rfl⟩
      | true =>
        exact .inr ⟨place, content, other, rfl, rfl, isMachineProgram_of_sharesStart shared,
          interpreter?_of_sharesStart shared⟩

/-- Two contents that agree in what decides about running them take the same interpreter, and the contents
of that agree in the same way. -/
theorem nextInterpreter?_alike (alike : Alike log clock files others) (directory : Location)
    {content other : Bytes} (machine : isMachineProgram content = isMachineProgram other)
    (script : (interpreter? content).map (·.path.bytes) = (interpreter? other).map (·.path.bytes)) :
    (∃ fault, nextInterpreter? files directory content = .error fault ∧
        nextInterpreter? others directory other = .error fault) ∨
      (nextInterpreter? files directory content = .ok none ∧
        nextInterpreter? others directory other = .ok none) ∨
      ∃ interpreter otherInterpreter program otherProgram,
        nextInterpreter? files directory content = .ok (some (interpreter, program)) ∧
          nextInterpreter? others directory other = .ok (some (otherInterpreter, otherProgram)) ∧
          isMachineProgram program = isMachineProgram otherProgram ∧
          (interpreter? program).map (·.path.bytes) =
            (interpreter? otherProgram).map (·.path.bytes) := by
  unfold nextInterpreter?
  rw [machine]
  split
  · exact .inr (.inl ⟨rfl, rfl⟩)
  · cases named : interpreter? content with
    | none =>
      rw [named] at script
      rw [show interpreter? other = none from Option.map_eq_none_iff.mp script.symm]
      exact .inl ⟨_, rfl, rfl⟩
    | some interpreter =>
      rw [named] at script
      obtain ⟨otherInterpreter, also, samePath⟩ := Option.map_eq_some_iff.mp script.symm
      have same : otherInterpreter.path = interpreter.path := congrArg Path.mk samePath
      rw [also]
      dsimp only
      rw [same]
      rcases executableAt_alike alike directory interpreter.path with
        ⟨fault, here, there⟩ | ⟨_, program, otherProgram, here, there, machine, script⟩ <;>
          rw [here, there]
      · exact .inl ⟨_, rfl, rfl⟩
      · exact .inr (.inr ⟨_, _, _, _, rfl, rfl, machine, script⟩)

/-- Such contents can both be run, or fail in the same way. The induction is on how many scripts may still
follow. -/
theorem interpreters_alike (alike : Alike log clock files others) (directory : Location) (fuel : Nat)
    {content other : Bytes} (machine : isMachineProgram content = isMachineProgram other)
    (script : (interpreter? content).map (·.path.bytes) = (interpreter? other).map (·.path.bytes)) :
    (∃ fault, interpreters files directory fuel content = .error fault ∧
        interpreters others directory fuel other = .error fault) ∨
      ∃ found otherFound, interpreters files directory fuel content = .ok found ∧
        interpreters others directory fuel other = .ok otherFound := by
  induction fuel generalizing content other with
  | zero =>
    rw [interpreters, interpreters]
    rcases nextInterpreter?_alike alike directory machine script with
      ⟨fault, here, there⟩ | ⟨here, there⟩ | ⟨_, _, _, _, here, there, -⟩ <;> rw [here, there]
    · exact .inl ⟨_, rfl, rfl⟩
    · exact .inr ⟨_, _, rfl, rfl⟩
    · exact .inl ⟨_, rfl, rfl⟩
  | succ fuel inductionHypothesis =>
    rw [interpreters, interpreters]
    rcases nextInterpreter?_alike alike directory machine script with
      ⟨fault, here, there⟩ | ⟨here, there⟩ | ⟨_, _, _, _, here, there, machine, script⟩ <;>
        rw [here, there]
    · exact .inl ⟨_, rfl, rfl⟩
    · exact .inr ⟨_, _, rfl, rfl⟩
    · simp only [bind, Except.bind]
      rcases inductionHypothesis machine script with ⟨fault, here, there⟩ | ⟨_, _, here, there⟩ <;>
        rw [here, there]
      · exact .inl ⟨_, rfl, rfl⟩
      · exact .inr ⟨_, _, rfl, rfl⟩

theorem runnableAt_alike (alike : Alike log clock files others) (directory : Location)
    (path : Path) : runnableAt files directory path = runnableAt others directory path := by
  unfold runnableAt
  rcases executableAt_alike alike directory path with
    ⟨fault, here, there⟩ | ⟨place, content, other, here, there, machine, script⟩ <;> rw [here, there]
  · rfl
  · simp only [bind, Except.bind]
    rcases interpreters_alike alike directory scriptLimit machine script with
      ⟨fault, here, there⟩ | ⟨_, _, here, there⟩ <;> rw [here, there]

theorem searchRunnable_alike (alike : Alike log clock files others) (directory : Location)
    (name : Path) (failure : Fault) (entries : List Path) :
    searchRunnable files directory name failure entries =
      searchRunnable others directory name failure entries := by
  induction entries generalizing failure with
  | nil => rfl
  | cons entry rest inductionHypothesis =>
    unfold searchRunnable
    simp only [runnableAt_alike alike directory, inductionHypothesis]

theorem lookUp_alike (alike : Alike log clock files others) (directory : Location)
    (searchPath : Option Bytes) (program : Path) :
    lookUp files directory searchPath program = lookUp others directory searchPath program := by
  unfold lookUp
  simp only [runnableAt_alike alike directory, searchRunnable_alike alike directory]

end FfiBindings.Program
