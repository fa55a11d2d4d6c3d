import FfiBindings.Proofs.Confinement
import FfiBindings.Proofs.Starting

/-!
# Starting a service with consent

Starting a service may write two files, the source that bears its name and the project file, both in the
working directory itself. Where the source is there already, they are written only with consent: by an
option, by the environment, or by a clear yes on the first line of the input. Without it the command ends
well and leaves all files as they were, and so does a name that no service may bear, with an error. The
log is left out of account.
-/

namespace FfiBindings

open FileSystem

/-- The first line of an input, with the line feed that ends it, if there is one. -/
def firstLine (input : Bytes) : Bytes :=
  input.takeWhile (· != 0x0A) ++ (input.dropWhile (· != 0x0A)).take 1

/-- Whether an input gives consent: its first line is a text that says yes, with blanks around it or
not, in small or in capital letters. -/
def Consents (input : Bytes) : Prop :=
  ∃ line, Utf8.decode? (firstLine input) = some line ∧
    (Text.lower (Text.trim line) = "y" ∨ Text.lower (Text.trim line) = "yes")

theorem consents_iff_of_text {input : Bytes} {line : Text}
    (isText : Utf8.decode? (firstLine input) = some line) :
    Consents input ↔ Text.lower (Text.trim line) = "y" ∨ Text.lower (Text.trim line) = "yes" := by
  simp [Consents, isText]

/-- An input whose first line is no text gives no consent. -/
theorem not_consents_of_noText {input : Bytes} (noText : Utf8.decode? (firstLine input) = none) :
    ¬ Consents input := by
  simp [Consents, noText]

namespace FileSystem

variable {files after : FileSystem} {working : Location} {path : Path} {content : Bytes}

theorem follow?_isSome_iff :
    (files.follow? working path).isSome = true ↔
      files.locate working path = .ok (destination working path) := by
  unfold follow?
  cases located : files.locate working path with
  | error fault => simp
  | ok place =>
    obtain rfl := locate_eq_destination located
    obtain ⟨-, -, kind⟩ := locate_eq_ok_iff.mp located
    have present : (files.kindAt? (destination working path)).isSome := by
      rcases kind with found | ⟨found, -⟩ <;> simp [found]
    simpa [kindAt?] using present

/-- An entry that can be written is found. -/
theorem locate_of_write (done : files.write working path content = .ok after)
    (present : (files.entryAt? (destination working path)).isSome = true) :
    files.locate working path = .ok (destination working path) := by
  obtain ⟨above, name, named, noSlash, notDirectory, same⟩ :=
    openFile_eq_ok_iff.mp (write_inv done).1
  rw [same] at present notDirectory ⊢
  obtain ⟨entry, found⟩ := Option.isSome_iff_exists.mp present
  cases entry with
  | directory => exact absurd found notDirectory
  | file content executable =>
    exact named.locate_eq (.inr ⟨kindAt?_eq_false_iff.mpr ⟨content, executable, found⟩, noSlash⟩)

end FileSystem

namespace Command

open FfiBindings.Action Effect

variable {name : Text} {isYes : Bool} {source directory : Path} {frame host : Host}
  {allowed : Location → Prop}

/-! ### Asking -/

theorem readLine_on (host : Host) :
    Host.readLine.on host =
      (match Utf8.decode? (firstLine host.input) with
        | some line => .ok line
        | none => .error .invalidText,
      { host with input := (host.input.dropWhile (· != 0x0A)).drop 1 }) := by
  unfold Host.readLine firstLine
  rw [on_get_bind]
  dsimp only
  cases Utf8.decode? (host.input.takeWhile (· != 0x0A) ++
    (host.input.dropWhile (· != 0x0A)).take 1) <;> rfl

/-- What is made of the line that was read. -/
def judge : Except Fault Text → Effect Bool
  | .error _ => do
      Log.write (.error "Failed to read input")
      return false
  | .ok line => return Text.lower (Text.trim line) == "y" || Text.lower (Text.trim line) == "yes"

/-- To ask is to put out a question, to read a line and to judge it. -/
theorem confirmOverwrite_run (path : Path) (host : Host) :
    ∃ emissions, (confirmOverwrite path).run host =
      (judge (Host.readLine.on { host with emissions }).1).run
        (Host.readLine.on { host with emissions }).2 :=
  ⟨_, rfl⟩

/-- Asking is answered by consent or by anything else. -/
theorem confirmOverwrite_iff (path : Path) (host : Host) :
    ((confirmOverwrite path).run host).1 = true ↔ Consents host.input := by
  obtain ⟨emissions, ran⟩ := confirmOverwrite_run path host
  rw [ran, readLine_on]
  dsimp only
  cases isText : Utf8.decode? (firstLine host.input) with
  | none => exact iff_of_false (by simp [judge]) (not_consents_of_noText isText)
  | some line =>
    rw [consents_iff_of_text isText]
    change (Text.lower (Text.trim line) == "y" || Text.lower (Text.trim line) == "yes") = true ↔ _
    simp only [Bool.or_eq_true, beq_iff_eq]

theorem confined_judge (read : Except Fault Text) : (judge read).Confined frame allowed := by
  cases read with
  | error fault => exact (confined_write _).bind fun _ => Effect.confined_pure _
  | ok line => exact Effect.confined_pure _

theorem confined_confirmOverwrite (path : Path) :
    (confirmOverwrite path).Confined frame allowed := by
  intro host keeps
  obtain ⟨emissions, ran⟩ := confirmOverwrite_run path host
  rw [ran]
  have told : frame.Keeps allowed { host with emissions } :=
    keeps.trans (.of_logsOnly (.emit host emissions))
  exact confined_judge _ (confined_readLine told)

/-- Where the source is there, no option and no variable speaks for it and the input does not consent, it
may not be written. -/
theorem mayWrite_of_declined (present : (host.follow? source).isSome = true)
    (unset : host.environmentValue? consentVariable = none) (declined : ¬ Consents host.input) :
    ((mayWrite source false).run host).1 = false := by
  unfold mayWrite
  rw [run_get_bind]
  simp only [Option.isNone_eq_false_iff.mpr present, unset, Option.isSome_none, Bool.or_false,
    Bool.false_eq_true, if_false]
  exact Bool.eq_false_iff.mpr fun consented => declined ((confirmOverwrite_iff source host).mp consented)

theorem mayWrite_of_missing (missing : (host.follow? source).isSome = false) (isYes : Bool) :
    (mayWrite source isYes).run host = (true, host) := by
  unfold mayWrite
  rw [run_get_bind]
  simp only [Option.isSome_eq_false_iff.mp missing, if_true]
  rfl

theorem confined_mayWrite (source : Path) (isYes : Bool) :
    (mayWrite source isYes).Confined frame allowed := by
  intro host keeps
  unfold mayWrite
  rw [run_get_bind]
  split
  · exact keeps
  · split
    · exact (confined_write _).bind (fun _ => Effect.confined_pure _) keeps
    · exact confined_confirmOverwrite source keeps

/-! ### Writing -/

/-- Writing the files of a new service is confined to the source and the project file. -/
theorem confined_scaffold
    (allowsSource : allowed
      (destination frame.directory (directory.join (.ofText (sourceFileName name)))))
    (allowsConfig : allowed (destination frame.directory (directory.join Config.fileName))) :
    (scaffold name directory).Confined frame allowed := by
  unfold scaffold
  exact ((confined_writeText _ allowsSource).orElseThrow _).bind fun _ =>
    Confined.after (confined_write _) fun _ =>
      ((confined_saveTo _ allowsConfig).orElseThrow _).bind fun _ =>
        Confined.after (confined_write _) fun _ => Action.confined_pure _

theorem scaffold_of_refused {fault : Fault}
    (refused : host.files.write host.directory (directory.join (.ofText (sourceFileName name)))
      (host.held (Utf8.encode (template (sourceFileName name)))) = .error fault) :
    (scaffold name directory).on host = (.error (.io fault), host) := by
  unfold scaffold
  exact on_bind_of_error (on_orElseThrow_of_error (Host.writeText_on_of_error refused) _) _

theorem confined_reportScaffold (name : Text) (made : Scaffold) :
    (reportScaffold name made).Confined frame allowed :=
  confined_of_logsOnly fun host => by
    have first := Host.logsOnly_write (.success ("Created " ++ made.source.display)) host
    have second := first.trans
      (Host.logsOnly_write (.success ("Created " ++ made.config.display)) _)
    exact second.trans (.emit _ _)

/-- What the command does in the working directory: it writes the files if it may. -/
def startService (name : Text) (isYes : Bool) (directory : Path) : Run Unit := do
  if ← mayWrite (directory.join (.ofText (sourceFileName name))) isYes then
    let made ← ofProject (scaffold name directory)
    reportScaffold name made
  else
    Log.write (.info "Operation cancelled by user")
    Host.print "Operation cancelled."

/-- A name that no service may bear is refused before anything else. -/
theorem runInit_of_rejected (rejected : isServiceName name = false) (isYes : Bool) (host : Host) :
    (runInit name isYes).on host = (.error ⟨none, .invalidServiceName name⟩,
      ((Log.write (.debug "Handling init command")).run host).2) := by
  unfold runInit
  rw [on_lift_bind, rejected]
  rfl

theorem runInit_eq (accepted : isServiceName name = true) (isYes : Bool) :
    runInit name isYes =
      ((liftM (Log.write (.debug "Handling init command")) : Run Unit) >>= fun _ =>
        workingDirectory >>= startService name isYes) := by
  unfold runInit startService
  simp only [accepted]
  rfl

theorem confined_startService (isYes : Bool)
    (allowsSource : allowed
      (destination frame.directory (directory.join (.ofText (sourceFileName name)))))
    (allowsConfig : allowed (destination frame.directory (directory.join Config.fileName))) :
    (startService name isYes directory).Confined frame allowed := by
  unfold startService
  refine Confined.after (confined_mayWrite _ isYes) fun permitted => ?_
  split
  · exact ((confined_scaffold allowsSource allowsConfig).orElseThrow _).bind fun made =>
      Confined.lift (confined_reportScaffold name made)
  · exact Confined.after (confined_write _) fun _ =>
      Confined.lift (confined_of_logsOnly (Host.logsOnly_emit _))

/-- Without consent the command says so and writes nothing. -/
theorem startService_of_asked
    (found : (host.follow? (directory.join (.ofText (sourceFileName name)))).isSome = true)
    (unset : host.environmentValue? consentVariable = none) (declined : ¬ Consents host.input) :
    ((startService name false directory).on host).1 = .ok () ∧
      host.Keeps allowed ((startService name false directory).on host).2 := by
  have asked := mayWrite_of_declined found unset declined
  have keeps : host.Keeps allowed
      ((mayWrite (directory.join (.ofText (sourceFileName name))) false).run host).2 :=
    confined_mayWrite _ _ (.refl host)
  unfold startService
  rw [on_lift_bind]
  rcases ran : (mayWrite (directory.join (.ofText (sourceFileName name))) false).run host with
    ⟨permitted, after⟩
  rw [ran] at asked keeps
  obtain rfl : permitted = false := asked
  rw [if_neg Bool.false_ne_true, on_lift_bind]
  exact ⟨rfl, keeps.trans (.of_logsOnly ((Host.logsOnly_write _ _).trans (Host.logsOnly_emit _ _)))⟩

/-- A source that is there, but not found by its path, cannot be written either. -/
theorem startService_of_unfound (isYes : Bool)
    (present : (host.files.entryAt? (destination host.directory
      (directory.join (.ofText (sourceFileName name))))).isSome = true)
    (unfound : (host.follow? (directory.join (.ofText (sourceFileName name)))).isSome = false) :
    ((startService name isYes directory).on host).2 = host := by
  unfold startService ofProject
  rw [on_lift_bind, mayWrite_of_missing unfound]
  dsimp only
  rw [if_pos rfl]
  cases written : host.files.write host.directory (directory.join (.ofText (sourceFileName name)))
      (host.held (Utf8.encode (template (sourceFileName name)))) with
  | error fault =>
    rw [on_bind_of_error (on_orElseThrow_of_error (scaffold_of_refused written) _)]
  | ok files =>
    have found := follow?_isSome_iff.mpr (locate_of_write written present)
    rw [Host.follow?, found] at unfound
    contradiction

/-! ### The command -/

/-- Where the source of a service lies. -/
def sourceLocation (host : Host) (name : Text) : Location :=
  Utf8.encode (sourceFileName name) :: host.directory

/-- Where the project file lies. -/
def configLocation (host : Host) : Location := Config.fileName.bytes :: host.directory

/-- The command where the name is accepted: it needs the working directory, and goes on there. -/
theorem runInit_of_accepted (accepted : isServiceName name = true) (isYes : Bool) (host : Host) :
    ∃ logged, host.LogsOnly logged ∧ (runInit name isYes).on host =
      if logged.files.isDirectory logged.directory then
        (startService name isYes logged.workingPath).on logged
      else (.error ⟨none, .noWorkingDirectory .notFound⟩, logged) := by
  refine ⟨_, Host.logsOnly_write (.debug "Handling init command") host, ?_⟩
  rw [runInit_eq accepted, on_lift_bind]
  generalize ((Log.write (.debug "Handling init command")).run host).2 = logged
  have home := workingDirectory_on logged
  split
  · next found =>
    rw [if_pos found] at home
    exact on_bind_of_ok home _
  · next missing =>
    rw [if_neg missing] at home
    exact on_bind_of_error home _

/-- The two files that may be written lie in the working directory itself. -/
theorem destination_of_rooted (names : ∀ step ∈ host.directory, isName step = true)
    (accepted : isServiceName name = true) :
    destination host.directory (host.workingPath.join (.ofText (sourceFileName name))) =
        sourceLocation host name ∧
      destination host.directory (host.workingPath.join Config.fileName) = configLocation host := by
  have configName : isName Config.fileName.bytes = true := by decide
  have home := Host.destination_workingPath names host.directory
  constructor
  · rw [Path.ofText, Path.destination_join_name (isName_sourceFileName accepted), home]
    rfl
  · rw [show Config.fileName = ⟨Config.fileName.bytes⟩ from rfl, Path.destination_join_name configName,
      home]
    rfl

/-- Where the source is there and nothing speaks for writing it, nothing changes. -/
theorem runInit_of_declined (tree : host.files.isTree = true) (accepted : isServiceName name = true)
    (present : (host.files.entryAt? (sourceLocation host name)).isSome = true)
    (unset : host.environmentValue? consentVariable = none) (declined : ¬ Consents host.input) :
    host.Keeps allowed ((runInit name false).on host).2 ∧
      ((host.follow? (host.workingPath.join (.ofText (sourceFileName name)))).isSome = true →
        ((runInit name false).on host).1 = .ok ()) := by
  obtain ⟨logged, logs, ran⟩ := runInit_of_accepted accepted false host
  obtain ⟨entry, isEntry⟩ := Option.isSome_iff_exists.mp present
  have home := (isTree_inv tree isEntry).2
  have isHome : logged.files.isDirectory logged.directory = true := by
    rw [logs.setting.directory, isDirectory, logs.grown.directory home]
    rfl
  have isSource := (destination_of_rooted (names_of_directory tree home) accepted).1
  have keepsLogged : host.Keeps allowed logged := .of_logsOnly logs
  rw [ran, if_pos isHome, logs.setting.workingPath]
  cases found : (logged.follow? (host.workingPath.join (.ofText (sourceFileName name)))).isSome with
  | true =>
    rw [← logs.setting.input] at declined
    rw [← logs.setting.environmentValue?] at unset
    obtain ⟨done, keeps⟩ := startService_of_asked found unset declined
    exact ⟨keepsLogged.trans keeps, fun _ => done⟩
  | false =>
    have still : (logged.files.entryAt? (sourceLocation host name)).isSome = true := by
      have kind := logs.grown (sourceLocation host name) (entry == .directory) (by simp [kindAt?, isEntry])
      obtain ⟨other, isOther, -⟩ := Option.map_eq_some_iff.mp kind
      simp [isOther]
    rw [← isSource, ← logs.setting.directory] at still
    rw [startService_of_unfound false still found]
    refine ⟨keepsLogged, fun foundBefore => ?_⟩
    have located := logs.grown.locate (follow?_isSome_iff.mp foundBefore)
    rw [Host.follow?, logs.setting.directory, follow?_isSome_iff.mpr located] at found
    contradiction

/-- Whatever comes of it, the command is confined to the source and the project file. -/
theorem runInit_confined (tree : host.files.isTree = true) (accepted : isServiceName name = true)
    (isYes : Bool) :
    host.Keeps (fun location => location = sourceLocation host name ∨ location = configLocation host)
      ((runInit name isYes).on host).2 := by
  obtain ⟨logged, logs, ran⟩ := runInit_of_accepted accepted isYes host
  rw [ran]
  split
  · next isHome =>
    rw [logs.setting.directory] at isHome
    have home := logs.fixed _ (by simpa [isDirectory] using isHome)
    obtain ⟨isSource, isConfig⟩ := destination_of_rooted (names_of_directory tree home) accepted
    rw [logs.setting.workingPath]
    exact confined_startService isYes (.inl isSource) (.inr isConfig) (.of_logsOnly logs)
  · exact .of_logsOnly logs

/-- Starting a service. A name that no service may bear is refused, and nothing changes. Where the source
is there, no option and no variable speaks for writing it and the first line of the input is no yes,
nothing changes either, and the command ends well as the path of the source leads there. Whatever happens,
no other files change than the source and the project file in the working directory. -/
theorem runInit_keeps (tree : host.files.isTree = true) (name : Text) (isYes : Bool) :
    (isServiceName name = false →
      ((runInit name isYes).on host).1 = .error ⟨none, .invalidServiceName name⟩ ∧
        host.Keeps (fun _ => False) ((runInit name isYes).on host).2) ∧
    (isServiceName name = true → (host.files.entryAt? (sourceLocation host name)).isSome = true →
      isYes = false → host.environmentValue? consentVariable = none → ¬ Consents host.input →
        host.Keeps (fun _ => False) ((runInit name isYes).on host).2 ∧
          ((host.follow? (host.workingPath.join (.ofText (sourceFileName name)))).isSome = true →
            ((runInit name isYes).on host).1 = .ok ())) ∧
    host.Keeps (fun location => location = sourceLocation host name ∨ location = configLocation host)
      ((runInit name isYes).on host).2 := by
  refine ⟨fun rejected => ?_, fun accepted present isNo unset declined => ?_, ?_⟩
  · rw [runInit_of_rejected rejected]
    exact ⟨rfl, .of_logsOnly (Host.logsOnly_write _ host)⟩
  · subst isNo
    exact runInit_of_declined tree accepted present unset declined
  · cases accepted : isServiceName name with
    | false =>
      rw [runInit_of_rejected accepted]
      exact .of_logsOnly (Host.logsOnly_write _ host)
    | true => exact runInit_confined tree accepted isYes

/-- A host with a source that is there already, and a first line of input that is no text. -/
def guardedHost : Host :=
  { Config.plainHost with
    files := ⟨Config.plainHost.files.entries ++
      [([Utf8.encode "adder.go"], .file (Utf8.encode "package main\n") false)]⟩
    input := [0xFF, 0x0A] ++ Utf8.encode "yes\n" }

/-- There the source and the project file stay as they are without consent, and so they do for a name
with a slash. -/
theorem runInit_keeps_guarded :
    ((runInit "adder" false).on guardedHost).1 = .ok () ∧
      (∀ location ∈ [sourceLocation guardedHost "adder", configLocation guardedHost],
        ((runInit "adder" false).on guardedHost).2.files.entryAt? location =
            guardedHost.files.entryAt? location ∧
          ((runInit "a/b" true).on guardedHost).2.files.entryAt? location =
            guardedHost.files.entryAt? location) ∧
      ((runInit "a/b" true).on guardedHost).1 = .error ⟨none, .invalidServiceName "a/b"⟩ := by
  have tree : guardedHost.files.isTree = true := by decide +kernel
  obtain ⟨-, unasked, -⟩ := runInit_keeps tree "adder" false
  obtain ⟨rejected, -, -⟩ := runInit_keeps tree "a/b" true
  obtain ⟨refused, keepsOther⟩ := rejected (by decide +kernel)
  obtain ⟨keeps, ended⟩ := unasked (by decide +kernel) (by decide +kernel) rfl rfl
    (not_consents_of_noText (by decide +kernel))
  refine ⟨ended (by decide +kernel), fun location member => ?_, refused⟩
  have offLog : guardedHost.logLocation? ≠ some location := by
    have logApart : ∀ location ∈ [sourceLocation guardedHost "adder", configLocation guardedHost],
        guardedHost.logLocation? ≠ some location := by decide +kernel
    exact logApart location member
  exact ⟨keeps.elsewhere location offLog id, keepsOther.elsewhere location offLog id⟩

end Command

end FfiBindings
