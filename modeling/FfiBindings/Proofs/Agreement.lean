import FfiBindings.Command.Build
import FfiBindings.Command.Make
import FfiBindings.Proofs.Alike
import FfiBindings.Proofs.Effects

/-!
# What does not depend on the log

An action is steady when it gives the same on hosts with alike files, and leaves them alike. All that
the generator does is steady when its source is not the log, and so is finding the toolchain.
-/

namespace FfiBindings

open FileSystem

namespace Host

/-- Hosts with the setting of a third one whose files are alike. -/
inductive Alike (frame : Host) : Host → Host → Prop where
  | intro {files others : FileSystem} (emissions otherEmissions : List Emission)
      (alike : FileSystem.Alike frame.logLocation? frame.clock files others) :
      Alike frame { frame with files, emissions }
        { frame with files := others, emissions := otherEmissions }

namespace Alike

variable {frame host other : Host}

theorem refl (host : Host) : Alike host host host := .intro _ _ (.refl _ _ _)

theorem setting (alike : frame.Alike host other) : frame.SameSetting host := by
  cases alike
  rfl

theorem otherSetting (alike : frame.Alike host other) : frame.SameSetting other := by
  cases alike
  rfl

theorem files (alike : frame.Alike host other) :
    FileSystem.Alike frame.logLocation? frame.clock host.files other.files := by
  cases alike
  assumption

theorem of_files (setting : frame.SameSetting host) (otherSetting : frame.SameSetting other)
    (files : FileSystem.Alike frame.logLocation? frame.clock host.files other.files) :
    frame.Alike host other := by
  rw [show host = _ from setting, show other = _ from otherSetting]
  exact .intro _ _ files

/-- What is put out does not count. -/
theorem emit (alike : frame.Alike host other) (emissions otherEmissions : List Emission) :
    frame.Alike { host with emissions } { other with emissions := otherEmissions } :=
  of_files (alike.setting.trans rfl) (alike.otherSetting.trans rfl) alike.files

theorem emit_other (alike : frame.Alike host other) (emissions : List Emission) :
    frame.Alike host { other with emissions } :=
  of_files alike.setting (alike.otherSetting.trans rfl) alike.files

/-- A record in each log, whatever it says, leaves them alike. -/
theorem record (alike : frame.Alike host other) (text otherText : Text) :
    frame.Alike ((Log.record text).run host).2 ((Log.record otherText).run other).2 := by
  cases alike with
  | @intro files others emissions otherEmissions alike =>
    rw [run_record, run_record, recorded, recorded]
    dsimp only
    cases logged : frame.log.file with
    | none => exact .intro _ _ alike
    | some file =>
      dsimp only
      have isLog : frame.logLocation? = some (destination frame.directory file) := by
        rw [logLocation?, logged]
        rfl
      rw [Log.encode_recordLine, Log.encode_recordLine]
      rcases alike.append isLog frame.fileLimit (Utf8.encode (text ++ "\n"))
          (Utf8.encode (otherText ++ "\n")) with
        ⟨fault, here, there⟩ | ⟨added, otherAdded, here, there, still⟩ <;> rw [here, there]
      · exact .intro _ _ alike
      · exact .intro _ _ still

end Alike

/-- A host whose log bears the stamp of a record or is full, unless it has no log that can be added
to. -/
def Logged (host : Host) : Prop :=
  ∀ file, host.log.file = some file →
    (∃ fault, host.files.openFile host.directory file = .error fault) ∨
      ∃ content executable,
        host.files.entryAt? (destination host.directory file) = some (.file content executable) ∧
          (Log.SharesStart host.clock content content ∨
            ∀ more, fitting host.fileLimit content.length more = [])

/-- A record that is added leaves its stamp, or as much of it as fits. -/
theorem logged_record (text : Text) (host : Host) : Logged ((Log.record text).run host).2 := by
  rw [run_record]
  cases logged : host.log.file with
  | none =>
    intro file isFile
    rw [logged] at isFile
    contradiction
  | some file =>
    rw [recorded, logged]
    dsimp only
    rw [Log.encode_recordLine]
    cases opened : host.files.openFile host.directory file with
    | error fault =>
      have refused (content : Bytes) :
          host.files.append host.fileLimit host.directory file content = .error fault := by
        rw [append, opened]
        rfl
      rw [refused]
      intro other isFile
      obtain rfl : file = other := Option.some.inj (logged.symm.trans isFile)
      exact .inl ⟨fault, opened⟩
    | ok target =>
      rw [append_of_openFile host.fileLimit opened]
      intro other isFile
      obtain rfl : file = other := Option.some.inj (logged.symm.trans isFile)
      obtain rfl := openFile_eq_destination opened
      rcases host.files.contentAt (destination host.directory file) with ⟨old, executable⟩
      dsimp only
      right
      rcases fitting_cases host.fileLimit old (Log.stamp host.clock) with fits | ⟨cut, isCut, full⟩
      · rw [fits]
        obtain ⟨-, held, -, -⟩ := put_opened opened (old ++ (Log.stamp host.clock ++ _)) executable
        exact ⟨_, _, held, .inl (.of_record _ _ _)⟩
      · rw [isCut]
        obtain ⟨-, held, -, -⟩ := put_opened opened (old ++ cut) executable
        exact ⟨_, _, held, .inr full⟩

/-- A record added to one of the logs alone leaves the hosts alike when the other one is logged. -/
theorem Alike.record_other {frame host other : Host} (alike : frame.Alike host other)
    (logged : Logged host) (text : Text) :
    frame.Alike host ((Log.record text).run other).2 := by
  cases alike with
  | @intro files others emissions otherEmissions alike =>
    rw [run_record, recorded]
    dsimp only
    cases hasLog : frame.log.file with
    | none => exact .intro _ _ alike
    | some file =>
      dsimp only
      have isLog : frame.logLocation? = some (destination frame.directory file) := by
        rw [logLocation?, hasLog]
        rfl
      cases done : others.append frame.fileLimit frame.directory file
          (Utf8.encode (Log.recordLine frame.clock text)) with
      | error fault => exact .intro _ _ alike
      | ok added =>
        rcases logged file hasLog with ⟨fault, refused⟩ | ⟨content, executable, held, settled⟩
        · have opened := (append_inv done).1
          rw [← openFile_congr alike.kinds] at opened
          rw [show files.openFile frame.directory file = .error fault from refused] at opened
          contradiction
        · exact .intro _ _ (alike.append_other isLog held settled done)

end Host

/-- An effect that leaves alike hosts alike. -/
def Effect.Steady (frame : Host) (effect : Effect Unit) : Prop :=
  ∀ ⦃host other⦄, frame.Alike host other →
    frame.Alike (effect.run host).2 (effect.run other).2

/-- An action that gives the same on alike hosts and leaves them alike. -/
def Action.Steady {ε α : Type} (frame : Host) (action : Action ε α) : Prop :=
  ∀ ⦃host other⦄, frame.Alike host other →
    (action.on host).1 = (action.on other).1 ∧
      frame.Alike (action.on host).2 (action.on other).2

namespace Effect

variable {frame : Host}

theorem Steady.andThen {first second : Effect Unit} (one : first.Steady frame)
    (two : second.Steady frame) : Effect.Steady frame (do first; second) :=
  fun _ _ alike => two (one alike)

/-- An effect may depend on the settings of its host. -/
theorem Steady.get_bind {effect : Host → Effect Unit}
    (blind : ∀ files emissions, effect { frame with files, emissions } = effect frame)
    (steady : (effect frame).Steady frame) : Effect.Steady frame (get >>= effect) := by
  intro host other alike
  rw [run_get_bind, run_get_bind]
  cases alike with
  | @intro files others emissions otherEmissions alike =>
    rw [blind files emissions, blind others otherEmissions]
    exact steady (.intro _ _ alike)

theorem steady_for {α : Type} {body : α → Effect Unit}
    (each : ∀ value, (body value).Steady frame) (values : List α) :
    Effect.Steady frame (forIn values PUnit.unit fun value _ => do
      body value
      pure (ForInStep.yield PUnit.unit)) := by
  intro host other alike
  rw [run_for, run_for]
  induction values generalizing host other with
  | nil => exact alike
  | cons value rest inductionHypothesis => exact inductionHypothesis (each value alike)

theorem steady_emit (emission : Emission) : (Host.emit emission).Steady frame := by
  intro host other alike
  cases alike with
  | intro emissions otherEmissions alike => exact .intro _ _ alike

theorem steady_write (message : Log.Message) : (Log.write message).Steady frame := by
  refine Steady.andThen (steady_for (fun text _ _ alike => alike.record text text) _) ?_
  refine Steady.get_bind (fun _ _ => rfl) ?_
  cases message.consoleLine? frame.log.verbosity frame.isColored with
  | none => exact fun _ _ alike => alike
  | some line => exact steady_emit _

/-- Messages of one record each leave the hosts alike, whatever they say. -/
theorem write_debug {host other : Host} (alike : frame.Alike host other) (text otherText : Text) :
    frame.Alike ((Log.write (.debug text)).run host).2
      ((Log.write (.debug otherText)).run other).2 := by
  obtain ⟨emissions, ran⟩ := Host.run_write (.debug text) host
  obtain ⟨otherEmissions, otherRan⟩ := Host.run_write (.debug otherText) other
  rw [ran, otherRan]
  exact (alike.record ("DEBUG " ++ text) ("DEBUG " ++ otherText)).emit emissions otherEmissions

/-- A message logged on one of the hosts alone leaves them alike when the other one is logged. -/
theorem write_other {host other : Host} (alike : frame.Alike host other) (logged : host.Logged)
    (message : Log.Message) : frame.Alike host ((Log.write message).run other).2 := by
  obtain ⟨emissions, ran⟩ := Host.run_write message other
  rw [ran]
  refine Host.Alike.emit_other ?_ emissions
  clear ran
  induction message.records generalizing other with
  | nil => exact alike
  | cons text rest inductionHypothesis =>
    exact inductionHypothesis (alike.record_other logged text)

/-- After a message with a record the host is logged. -/
theorem logged_success (text : Text) (host : Host) :
    ((Log.write (.success text)).run host).2.Logged := by
  obtain ⟨emissions, ran⟩ := Host.run_write (.success text) host
  rw [ran]
  exact Host.logged_record ("SUCCESS " ++ text) host

end Effect

namespace Action

variable {frame : Host} {ε ε' α β : Type}

theorem steady_pure (value : α) : (pure value : Action ε α).Steady frame :=
  fun _ _ alike => ⟨rfl, alike⟩

theorem steady_throw (error : ε) : (throw error : Action ε α).Steady frame :=
  fun _ _ alike => ⟨rfl, alike⟩

theorem Steady.bind {action : Action ε α} {next : α → Action ε β} (first : action.Steady frame)
    (later : ∀ value, (next value).Steady frame) : (action >>= next).Steady frame := by
  intro host other alike
  obtain ⟨same, still⟩ := first alike
  rcases ran : action.on host with ⟨result, after⟩
  rcases otherRan : action.on other with ⟨otherResult, otherAfter⟩
  rw [ran, otherRan] at same still
  obtain rfl : result = otherResult := same
  cases result with
  | error error =>
    rw [on_bind_of_error ran, on_bind_of_error otherRan]
    exact ⟨rfl, still⟩
  | ok value =>
    rw [on_bind_of_ok ran, on_bind_of_ok otherRan]
    exact later value still

theorem Steady.after {effect : Effect Unit} {action : Action ε α} (first : effect.Steady frame)
    (later : action.Steady frame) : ((liftM effect : Action ε Unit) >>= fun _ => action).Steady frame :=
  fun _ _ alike => later (first alike)

theorem Steady.orElseThrow {action : Action ε α} (steady : action.Steady frame) (wrap : ε → ε') :
    (action.orElseThrow wrap).Steady frame := by
  intro host other alike
  obtain ⟨same, still⟩ := steady alike
  rw [on_orElseThrow, on_orElseThrow, same]
  exact ⟨rfl, still⟩

end Action

namespace Host

variable {frame : Host}

theorem steady_makeDirectories (path : Path) : (makeDirectories path).Steady frame := by
  intro host other alike
  cases alike with
  | intro emissions otherEmissions alike =>
    obtain ⟨same, still⟩ := alike.makeDirectories frame.directory path
    exact ⟨same, .intro _ _ still⟩

theorem steady_writeText (path : Path) (content : Text) : (writeText path content).Steady frame := by
  intro host other alike
  cases alike with
  | @intro files others emissions otherEmissions alike =>
    rw [writeText_on, writeText_on]
    simp only [held]
    rcases alike.write frame.directory path (fitting frame.fileLimit 0 (Utf8.encode content)) with
      ⟨fault, here, there⟩ | ⟨written, otherWritten, here, there, still⟩ <;> rw [here, there]
    · exact ⟨rfl, .intro _ _ alike⟩
    · exact ⟨rfl, .intro _ _ still⟩

end Host

open FfiBindings.Action Effect Host

variable {frame : Host}

theorem Source.steady_extractFile {path : Path}
    (off : frame.logLocation? ≠ some (destination frame.directory path)) :
    (extractFile path).Steady frame := by
  intro host other alike
  obtain ⟨emissions, extracting⟩ := extractFile_on path host
  obtain ⟨otherEmissions, otherExtracting⟩ := extractFile_on path other
  rw [extracting, otherExtracting]
  cases alike with
  | intro _ _ alike =>
    dsimp only
    rw [alike.readText off]
    exact ⟨rfl, .intro _ _ alike⟩

theorem Service.steady_save (functions : List Source.ExportedFunction) (base : Text)
    (directory : Path) : (save functions base directory).Steady frame := by
  unfold save
  split
  · exact (steady_throw _).bind fun _ =>
      ((steady_makeDirectories directory).orElseThrow _).bind fun _ =>
        Steady.after (steady_emit _) <| ((steady_writeText _ _).orElseThrow _).bind fun _ =>
          Steady.after (steady_emit _) (steady_pure _)
  · exact ((steady_makeDirectories directory).orElseThrow _).bind fun _ =>
        Steady.after (steady_emit _) <| ((steady_writeText _ _).orElseThrow _).bind fun _ =>
          Steady.after (steady_emit _) (steady_pure _)

namespace Build

theorem isFile_alike {host other : Host} (alike : frame.Alike host other) (path : Path) :
    host.isFile path = other.isFile path ∧ isExecutable host path = isExecutable other path := by
  cases alike with
  | intro emissions otherEmissions alike =>
    unfold Host.isFile isExecutable Host.follow?
    dsimp only
    rcases alike.follow?_cases frame.directory path with
      same | ⟨content, other, executable, here, there⟩
    · rw [same]
      exact ⟨rfl, rfl⟩
    · rw [here, there]
      cases executable <;> exact ⟨rfl, rfl⟩

/-- Finding the toolchain is steady. -/
theorem steady_resolveToolchain : resolveToolchain.Steady frame := by
  intro host other alike
  have same := isFile_alike alike
  have searched : searchToolchain host = searchToolchain other := by
    unfold searchToolchain
    rw [funext fun path => (same path).2]
    cases alike
    rfl
  have sameValue (name : Text) : host.environmentValue? name = other.environmentValue? name := by
    cases alike
    rfl
  unfold resolveToolchain
  rw [on_get_bind, on_get_bind, searched, sameValue]
  cases other.environmentValue? toolchainVariable with
  | some named =>
    dsimp only
    rw [(same _).1]
    refine Steady.after (steady_emit _) ?_ alike
    split
    · exact steady_pure _
    · exact steady_throw _
  | none =>
    cases searchToolchain other with
    | some path => exact Steady.after (steady_emit _) (steady_pure path) alike
    | none => exact steady_throw _ alike

/-- The same programs can be started on alike hosts. -/
theorem invocation_alike {host other : Host} (alike : frame.Alike host other) (program : Path)
    (arguments : List Bytes) (directory : Path) :
    Program.invocation host program arguments directory =
      Program.invocation other program arguments directory := by
  cases alike with
  | intro emissions otherEmissions alike =>
    unfold Program.invocation Program.enter Host.environmentValue?
    simp only [locate_congr alike.kinds, isDirectory_congr alike.kinds, Program.lookUp_alike alike]

end Build

namespace Command

theorem steady_logSkipped (skipped : List Source.SkippedLine) : (logSkipped skipped).Steady frame :=
  steady_for (fun _ => steady_write _) skipped

/-- The generator is steady when its source is not the log. -/
theorem steady_generate {project : Project}
    (off : frame.logLocation? ≠ some (destination frame.directory project.source)) :
    (generate project).Steady frame := by
  have named : Action.Steady frame (ExceptT.mk (pure project.baseName) : Action ProjectError Text) := by
    cases project.baseName with
    | ok base => exact steady_pure base
    | error error => exact steady_throw error
  exact named.bind fun base =>
    Steady.after (steady_write _) <|
      ((Source.steady_extractFile off).orElseThrow _).bind fun extraction =>
        Steady.after (steady_logSkipped _) <|
          ((steady_makeDirectories _).orElseThrow _).bind fun _ =>
            Steady.after (steady_write _) <|
              ((Service.steady_save _ _ _).orElseThrow _).bind fun path => steady_pure _

/-- Reporting what was generated is steady. -/
theorem steady_reportGenerated (generated : Generated) : (reportGenerated generated).Steady frame := by
  refine Effect.Steady.get_bind (fun _ _ => rfl) ?_
  refine (steady_emit _).andThen ?_
  refine (steady_for (fun _ => steady_emit _) _).andThen ?_
  dsimp only
  split
  · exact (steady_write _).andThen (steady_write _)
  · exact steady_write _

end Command

end FfiBindings
