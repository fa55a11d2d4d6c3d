import FfiBindings.Command.Generate
import FfiBindings.Proofs.Trees

/-!
# What actions do to a host

An action gives a result and leaves a host. The laws here say what that is for the actions that
commands are made of, so that a command can be followed from its first action to its last, or to the
one that fails.

Much of what a command does concerns its log. Logging may change the log file, and it puts out
messages; the files outside of the log file and all settings of the host stay as they are.
-/

namespace FfiBindings

/-- What an action gives on a host, and the host that it leaves. -/
def Action.on {ε α : Type} (action : Action ε α) (host : Host) : Except ε α × Host :=
  action.run.run host

namespace Action

variable {ε ε' α β : Type} {host after : Host}

theorem on_bind_of_ok {action : Action ε α} {value : α} {between : Host}
    (done : action.on host = (.ok value, between)) (next : α → Action ε β) :
    (action >>= next).on host = (next value).on between := by
  change (match action.on host with | (result, left) => ExceptT.bindCont next result left) = _
  rw [done]
  rfl

theorem on_bind_of_error {action : Action ε α} {error : ε}
    (failed : action.on host = (.error error, after)) (next : α → Action ε β) :
    (action >>= next).on host = (.error error, after) := by
  change (match action.on host with | (result, left) => ExceptT.bindCont next result left) = _
  rw [failed]
  rfl

/-- Where two actions succeed one after the other, each does. -/
theorem on_bind_inv {action : Action ε α} {next : α → Action ε β} {value : β}
    (done : (action >>= next).on host = (.ok value, after)) :
    ∃ first between, action.on host = (.ok first, between) ∧
      (next first).on between = (.ok value, after) := by
  rcases ran : action.on host with ⟨error | first, between⟩
  · rw [on_bind_of_error ran] at done
    simp at done
  · rw [on_bind_of_ok ran] at done
    exact ⟨first, between, rfl, done⟩

theorem on_lift_bind (effect : Effect α) (next : α → Action ε β) (host : Host) :
    ((liftM effect : Action ε α) >>= next).on host =
      (next (effect.run host).1).on (effect.run host).2 := rfl

theorem on_get_bind (next : Host → Action ε β) (host : Host) :
    ((get : Action ε Host) >>= next).on host = (next host).on host := rfl

theorem on_modify_bind (change : Host → Host) (next : Unit → Action ε β) (host : Host) :
    ((modify change : Action ε Unit) >>= next).on host = (next ()).on (change host) := rfl

theorem on_modify (change : Host → Host) (host : Host) :
    (modify change : Action ε Unit).on host = (.ok (), change host) := rfl

theorem on_orElseThrow (action : Action ε α) (wrap : ε → ε') (host : Host) :
    (action.orElseThrow wrap).on host = ((action.on host).1.mapError wrap, (action.on host).2) :=
  rfl

theorem on_orElseThrow_of_ok {action : Action ε α} {value : α}
    (done : action.on host = (.ok value, after)) (wrap : ε → ε') :
    (action.orElseThrow wrap).on host = (.ok value, after) := by
  rw [on_orElseThrow, done]
  rfl

theorem on_orElseThrow_of_error {action : Action ε α} {error : ε}
    (failed : action.on host = (.error error, after)) (wrap : ε → ε') :
    (action.orElseThrow wrap).on host = (.error (wrap error), after) := by
  rw [on_orElseThrow, failed]
  rfl

theorem on_orElseThrow_inv {action : Action ε α} {wrap : ε → ε'} {value : α}
    (done : (action.orElseThrow wrap).on host = (.ok value, after)) :
    action.on host = (.ok value, after) := by
  rcases ran : action.on host with ⟨error | first, between⟩
  · rw [on_orElseThrow_of_error ran] at done
    simp at done
  · obtain ⟨same, rfl⟩ := Prod.mk.inj ((on_orElseThrow_of_ok ran wrap).symm.trans done)
    rw [Except.ok.inj same]

end Action

namespace Effect

theorem run_get_bind {α : Type} (effect : Host → Effect α) (host : Host) :
    ((get : Effect Host) >>= effect).run host = (effect host).run host := rfl

theorem run_andThen {α : Type} (first : Effect Unit) (second : Effect α) (host : Host) :
    (do first; second : Effect α).run host = second.run (first.run host).2 := rfl

/-- A loop of effects leaves the host that its rounds leave one after another. -/
theorem run_for {α : Type} (body : α → Effect Unit) (values : List α) (host : Host) :
    (forIn values PUnit.unit fun value _ => do
        body value
        pure (ForInStep.yield PUnit.unit) : Effect PUnit).run host =
      (PUnit.unit, values.foldl (fun host value => ((body value).run host).2) host) := by
  induction values generalizing host with
  | nil => rfl
  | cons value rest inductionHypothesis =>
    rw [List.forIn_cons]
    exact inductionHypothesis ((body value).run host).2

end Effect

/-- The same for a loop inside an action. -/
theorem Action.on_for_bind {ε α β : Type} (body : α → Effect Unit) (values : List α)
    (next : PUnit → Action ε β) (host : Host) :
    ((forIn values PUnit.unit fun value _ => do
        liftM (body value)
        pure (ForInStep.yield PUnit.unit) : Action ε PUnit) >>= next).on host =
      (next PUnit.unit).on (values.foldl (fun host value => ((body value).run host).2) host) := by
  induction values generalizing host with
  | nil => rfl
  | cons value rest inductionHypothesis =>
    rw [List.forIn_cons]
    exact inductionHypothesis ((body value).run host).2

namespace Host

/-- The location of the log file, if there is one. -/
def logLocation? (host : Host) : Option Location :=
  host.log.file.map (FileSystem.destination host.directory)

/-- Nothing but the files and what has been put out is different afterwards. -/
def SameSetting (host after : Host) : Prop :=
  after = { host with files := after.files, emissions := after.emissions }

/-- The log file may be different afterwards, and more may have been put out; all else is the same. -/
structure LogsOnly (host after : Host) : Prop where
  setting : SameSetting host after
  elsewhere : FileSystem.SameBesides host.logLocation? host.files after.files
  grown : FileSystem.Grows host.files after.files
  fixed : FileSystem.NoNewDirectory host.files after.files

namespace SameSetting

theorem directory {host after : Host} (same : SameSetting host after) :
    after.directory = host.directory := by
  rw [show after = _ from same]

theorem logLocation? {host after : Host} (same : SameSetting host after) :
    after.logLocation? = host.logLocation? := by
  rw [show after = _ from same]
  rfl

theorem trans {host between after : Host} (first : SameSetting host between)
    (second : SameSetting between after) : SameSetting host after := by
  unfold SameSetting at first second ⊢
  rw [second, first]

theorem environmentValue? {host after : Host} (same : SameSetting host after) (name : Text) :
    after.environmentValue? name = host.environmentValue? name := by
  rw [show after = _ from same]
  rfl

theorem launches {host after : Host} (same : SameSetting host after) :
    after.launches = host.launches := by
  rw [show after = _ from same]

theorem fileLimit {host after : Host} (same : SameSetting host after) :
    after.fileLimit = host.fileLimit := by
  rw [show after = _ from same]

theorem input {host after : Host} (same : SameSetting host after) : after.input = host.input := by
  rw [show after = _ from same]

end SameSetting

namespace LogsOnly

variable {host between after : Host}

theorem refl (host : Host) : LogsOnly host host :=
  ⟨rfl, fun _ _ => rfl, .refl _, fun _ found => found⟩

theorem trans (first : LogsOnly host between) (second : LogsOnly between after) :
    LogsOnly host after where
  setting := first.setting.trans second.setting
  elsewhere location other := by
    rw [second.elsewhere location (first.setting.logLocation? ▸ other),
      first.elsewhere location other]
  grown := first.grown.trans second.grown
  fixed location found := first.fixed location (second.fixed location found)

/-- What is only put out changes no files. -/
theorem emit (host : Host) (emissions : List Emission) :
    LogsOnly host { host with emissions } :=
  ⟨rfl, fun _ _ => rfl, .refl _, fun _ found => found⟩

/-- A file that is not the log reads as before. -/
theorem readText_eq_ok_iff (logged : LogsOnly host after) {path : Path} {text : Text}
    (apart : host.logLocation? ≠ some (FileSystem.destination host.directory path)) :
    after.files.readText after.directory path = .ok text ↔
      host.files.readText host.directory path = .ok text := by
  have kept := logged.elsewhere _ apart
  rw [logged.setting.directory, FileSystem.readText_eq_ok_iff, FileSystem.readText_eq_ok_iff]
  constructor <;> rintro ⟨content, read, decoded⟩
  · exact ⟨content, FileSystem.read_back (fun _ _ => logged.fixed _) kept read, decoded⟩
  · exact ⟨content, logged.grown.read kept read, decoded⟩

end LogsOnly

theorem logsOnly_emit (emission : Emission) (host : Host) :
    LogsOnly host ((Host.emit emission).run host).2 := .emit host _

/-- The files after a record, which is added to the log if there is one that can be opened. -/
def recorded (host : Host) (text : Text) : FileSystem :=
  match host.log.file with
  | none => host.files
  | some file => (host.files.append host.fileLimit host.directory file
      (Utf8.encode (Log.recordLine host.clock text))).toOption.getD host.files

theorem run_record (text : Text) (host : Host) :
    ((Log.record text).run host).2 = { host with files := host.recorded text } := by
  unfold Log.record recorded
  rw [StateT.run_modify]
  cases host.log.file with
  | none => rfl
  | some file =>
    dsimp only
    cases host.files.append host.fileLimit host.directory file
      (Utf8.encode (Log.recordLine host.clock text)) <;> rfl

theorem logsOnly_record (text : Text) (host : Host) :
    LogsOnly host ((Log.record text).run host).2 := by
  rw [run_record]
  cases logged : host.log.file with
  | none =>
    rw [recorded, logged]
    exact .refl host
  | some file =>
    rw [recorded, logged]
    dsimp only
    cases done : host.files.append host.fileLimit host.directory file
        (Utf8.encode (Log.recordLine host.clock text)) with
    | error fault => exact .refl host
    | ok files =>
      obtain ⟨opened, rfl⟩ := FileSystem.append_inv done
      obtain ⟨elsewhere, -, grown, fixed⟩ := FileSystem.put_opened opened _ _
      refine ⟨rfl, ?_, grown, fixed⟩
      rw [logLocation?, logged]
      exact elsewhere

/-- Rounds that log leave a host together as each leaves it alone. -/
theorem logsOnly_foldl {α : Type} {round : Host → α → Host}
    (each : ∀ host value, LogsOnly host (round host value)) (values : List α) (host : Host) :
    LogsOnly host (values.foldl round host) := by
  induction values generalizing host with
  | nil => exact .refl host
  | cons value rest inductionHypothesis =>
    exact (each host value).trans (inductionHypothesis (round host value))

/-- A message goes to the log record by record, and may be shown. -/
theorem run_write (message : Log.Message) (host : Host) :
    ∃ emissions, ((Log.write message).run host).2 =
      { message.records.foldl (fun host text => ((Log.record text).run host).2) host with
        emissions } := by
  unfold Log.write
  rw [StateT.run_bind, Effect.run_for]
  generalize message.records.foldl _ host = after
  change ∃ emissions, (((get : Effect Host) >>= _).run after).2 = _
  rw [Effect.run_get_bind]
  cases message.consoleLine? after.log.verbosity after.isColored with
  | none => exact ⟨after.emissions, rfl⟩
  | some line => exact ⟨_, rfl⟩

/-- Logging a message changes nothing but the log file. -/
theorem logsOnly_write (message : Log.Message) (host : Host) :
    LogsOnly host ((Log.write message).run host).2 := by
  obtain ⟨emissions, ran⟩ := run_write message host
  rw [ran]
  exact (logsOnly_foldl (fun host text => logsOnly_record text host) message.records host).trans
    (.emit _ emissions)

theorem logsOnly_for {α : Type} {body : α → Effect Unit}
    (each : ∀ value host, LogsOnly host ((body value).run host).2) (values : List α) (host : Host) :
    LogsOnly host ((forIn values PUnit.unit fun value _ => do
      body value
      pure (ForInStep.yield PUnit.unit) : Effect PUnit).run host).2 := by
  rw [Effect.run_for]
  exact logsOnly_foldl (fun host value => each value host) values host

theorem logsOnly_logSkipped (skipped : List Source.SkippedLine) (host : Host) :
    LogsOnly host ((Command.logSkipped skipped).run host).2 :=
  logsOnly_for (fun _ => logsOnly_write _) skipped host

theorem run_report (severity : Severity) (target message : Text) (host : Host) :
    (Host.report severity target message).run host =
      ((), { host with emissions := host.emissions ++ [.event ⟨severity, target, message⟩] }) := rfl

theorem makeDirectories_on (path : Path) (host : Host) :
    (Host.makeDirectories path).on host =
      ((host.files.makeDirectories host.directory path).2,
        { host with files := (host.files.makeDirectories host.directory path).1 }) := rfl

theorem makeDirectories_on_of_ok {path : Path} {host : Host} {made : FileSystem}
    (prepared : host.files.makeDirectories host.directory path = (made, .ok ())) :
    (Host.makeDirectories path).on host = (.ok (), { host with files := made }) := by
  rw [makeDirectories_on, prepared]

theorem makeDirectories_on_of_error {path : Path} {host : Host} {made : FileSystem} {fault : Fault}
    (failed : host.files.makeDirectories host.directory path = (made, .error fault)) :
    (Host.makeDirectories path).on host = (.error fault, { host with files := made }) := by
  rw [makeDirectories_on, failed]

/-- Only a limit keeps a file from holding all of a content, and then it holds what is below the
limit. -/
theorem limit_of_held_ne {host : Host} {content : Bytes} (exceeds : host.held content ≠ content) :
    ∃ limit, host.fileLimit = some limit ∧ limit < content.length ∧
      host.held content = content.take limit := by
  cases limited : host.fileLimit with
  | none => exact absurd (by rw [held, limited]; rfl) exceeds
  | some limit =>
    have held : host.held content = content.take limit := by
      rw [held, limited]
      rfl
    refine ⟨limit, rfl, Nat.lt_of_not_le fun short => exceeds ?_, held⟩
    rw [held, List.take_of_length_le short]

/-- A text is written as far as it fits, once its file is opened. -/
theorem writeText_on (path : Path) (content : Text) (host : Host) :
    (Host.writeText path content).on host =
      match host.files.write host.directory path (host.held (Utf8.encode content)) with
      | .error fault => (.error fault, host)
      | .ok files =>
          (if host.held (Utf8.encode content) = Utf8.encode content then .ok () else .error .tooLarge,
            { host with files }) := by
  unfold Host.writeText
  rw [Action.on_get_bind]
  dsimp only
  cases host.files.write host.directory path (host.held (Utf8.encode content)) with
  | error fault => rfl
  | ok files =>
    dsimp only
    by_cases fits : host.held (Utf8.encode content) = Utf8.encode content
    · rw [if_pos fits, if_neg (not_not_intro fits)]
      rfl
    · rw [if_neg fits, if_pos fits]
      rfl

theorem writeText_on_of_error {path : Path} {content : Text} {host : Host} {fault : Fault}
    (refused : host.files.write host.directory path (host.held (Utf8.encode content)) =
      .error fault) :
    (Host.writeText path content).on host = (.error fault, host) := by
  rw [writeText_on, refused]

/-- How the writing of a text can end: its file cannot be opened, or not all of the text fits into it,
or all of it is written. -/
theorem writeText_cases (path : Path) (content : Text) (host : Host) :
    (∃ fault, host.files.write host.directory path (host.held (Utf8.encode content)) = .error fault ∧
      (Host.writeText path content).on host = (.error fault, host)) ∨
    (∃ files, host.held (Utf8.encode content) ≠ Utf8.encode content ∧
      host.files.write host.directory path (host.held (Utf8.encode content)) = .ok files ∧
      (Host.writeText path content).on host = (.error .tooLarge, { host with files })) ∨
    ∃ files, host.held (Utf8.encode content) = Utf8.encode content ∧
      host.files.write host.directory path (Utf8.encode content) = .ok files ∧
      (Host.writeText path content).on host = (.ok (), { host with files }) := by
  have ended := writeText_on path content host
  cases written : host.files.write host.directory path (host.held (Utf8.encode content)) with
  | error fault => exact .inl ⟨fault, rfl, writeText_on_of_error written⟩
  | ok files =>
    rw [written] at ended
    dsimp only at ended
    split at ended
    · next fits => exact .inr (.inr ⟨files, fits, fits ▸ written, ended⟩)
    · next exceeds => exact .inr (.inl ⟨files, exceeds, rfl, ended⟩)

/-- A text that was written is in the files. -/
theorem writeText_inv {path : Path} {content : Text} {host after : Host}
    (done : (Host.writeText path content).on host = (.ok (), after)) :
    ∃ files, host.files.write host.directory path (Utf8.encode content) = .ok files ∧
      after = { host with files } := by
  rcases writeText_cases path content host with
    ⟨fault, -, ended⟩ | ⟨files, -, -, ended⟩ | ⟨files, -, written, ended⟩ <;> rw [ended] at done
  · simp at done
  · simp at done
  · exact ⟨files, written, (Prod.mk.inj done).2.symm⟩

end Host

theorem Command.workingDirectory_on (host : Host) :
    workingDirectory.on host =
      (if host.files.isDirectory host.directory then .ok host.workingPath
        else .error ⟨none, .noWorkingDirectory .notFound⟩, host) := by
  unfold workingDirectory Host.directoryPath
  rw [Action.on_orElseThrow, Action.on_get_bind]
  split <;> rfl

namespace Source

/-- What a source file gives, by what reading it gives. -/
def extractionOf (path : Path) : Except Fault Text → Except FileError Extraction
  | .error fault => .error (.unreadable path fault)
  | .ok text => (extract text).mapError .invalid

/-- An extraction is that of the text that is read. -/
theorem extractionOf_eq_ok_iff {path : Path} {read : Except Fault Text} {extraction : Extraction} :
    extractionOf path read = .ok extraction ↔
      ∃ text, read = .ok text ∧ extract text = .ok extraction := by
  cases read with
  | error fault => simp [extractionOf]
  | ok text => cases extracted : extract text <;> simp [extractionOf, Except.mapError, extracted]

/-- The event by which a notice is reported. -/
def Notice.event (notice : Notice) : TraceEvent :=
  ⟨if notice.isWarning then .warn else .debug, passTarget, notice.message⟩

/-- Notices are reported one after the other. -/
theorem report_foldl (notices : List Notice) (host : Host) :
    notices.foldl (fun host notice => ((Host.report
        (if notice.isWarning then .warn else .debug) passTarget notice.message).run host).2) host =
      { host with emissions := host.emissions ++ notices.map (.event ·.event) } := by
  induction notices generalizing host with
  | nil => simp
  | cons notice rest inductionHypothesis =>
    rw [List.foldl_cons, inductionHypothesis, Host.run_report, List.append_assoc]
    rfl

/-- A pass reports its notices, whether it succeeds or fails, and changes nothing else. -/
theorem extractReporting_on (source : Text) (host : Host) :
    (extractReporting source).on host =
      ((extract source).mapError .invalid,
        { host with emissions := host.emissions ++ (notices source).map (.event ·.event) }) := by
  unfold extractReporting
  rw [Action.on_for_bind, report_foldl]
  cases extract source <;> rfl

/-- Extracting from a file depends on what reading it gives, and changes nothing. -/
theorem extractFile_on (path : Path) (host : Host) :
    ∃ emissions, (extractFile path).on host =
      (extractionOf path (host.files.readText host.directory path), { host with emissions }) := by
  have loaded : (load path).on host =
      ((host.files.readText host.directory path).mapError (.unreadable path),
        { host with emissions := ((Host.report .debug passTarget
          ("Initializing export extractor for: " ++ path.quoted)).run host).2.emissions }) := rfl
  unfold extractFile
  cases read : host.files.readText host.directory path with
  | error fault =>
    rw [read] at loaded
    exact ⟨_, Action.on_bind_of_error loaded _⟩
  | ok text =>
    rw [read] at loaded
    rw [Action.on_bind_of_ok loaded]
    have passed (emissions : List Emission) := extractReporting_on text { host with emissions }
    rw [extractionOf]
    cases extracted : extract text with
    | error error =>
      rw [extracted] at passed
      exact ⟨_, Action.on_bind_of_error (passed _) _⟩
    | ok extraction =>
      rw [extracted] at passed
      rw [Action.on_bind_of_ok (passed _)]
      exact ⟨_, rfl⟩

end Source

end FfiBindings
