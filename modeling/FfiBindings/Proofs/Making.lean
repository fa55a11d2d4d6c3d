import FfiBindings.Proofs.BuildRuns
import FfiBindings.Proofs.Regeneration
import FfiBindings.Proofs.Resolution

/-!
# Generating and building in one go

The command that does both is the two commands one after the other. It resolves the project once where
they do it twice; nothing that is generated changes what the second time gives. What the log says is
different, and so is what is put out, but that decides nothing before the toolchain starts, and nothing
afterwards when the toolchain pays no attention to the log.
-/

namespace FfiBindings.Command

open FileSystem FfiBindings.Action Effect

variable {behaviour : Program.Behaviour} {source : Option Path} {project : Project}
  {directory : Path} {frame host other after : Host}

/-! ### How commands begin -/

/-- The beginning of a command on a project: it says what it handles, and resolves the project. -/
def opening (handling : Text) (source : Option Path) : Run (Path × Project) := do
  Log.write (.debug handling)
  let directory ← workingDirectory
  let project ← ofProject (Project.resolve source directory)
  return (directory, project)

/-- A generating step: it is announced, goes on under its label, and is reported. -/
def generating (heading : Project → Text × Text) (label : Option Text) (project : Project) :
    Run Unit := do
  printHeaded (heading project).1 (heading project).2
  let generated ← (generate project).orElseThrow fun error => ⟨label, .project error⟩
  reportGenerated generated

theorem runGenerate_eq (source : Option Path) :
    runGenerate source = opening "Handling generate command" source >>= fun opened =>
      generating (fun project => ("Generating PHP bindings for", project.source.display)) none
        opened.2 := by
  unfold runGenerate opening generating ofProject
  simp only [bind_assoc, pure_bind]

/-- How a command speaks about its building step: what it announces, the label of the step, and what it
tells about the results. -/
structure Manner where
  announce : Project → Effect Unit
  label : Option Text
  tell : Project → Build.Plan → Effect Unit
  announces (project : Project) (host : Host) :
    ∃ emissions, ((announce project).run host).2 = { host with emissions }
  tells (project : Project) (plan : Build.Plan) (host : Host) :
    host.LogsOnly ((tell project plan).run host).2

/-- A building step: it is announced, goes on under its label, and tells about its results. -/
def building (manner : Manner) (behaviour : Program.Behaviour) (opened : Path × Project) :
    Run Unit := do
  manner.announce opened.2
  let plan ← (Build.build behaviour opened.2 opened.1).orElseThrow fun error =>
    ⟨manner.label, .project error⟩
  manner.tell opened.2 plan

/-- The second step of the command that does both. -/
def secondStep : Manner where
  announce _ := do
    Host.print []
    printHeaded "[2/2]" "Building shared library..."
  label := some "Build step failed"
  tell project plan := do
    Host.print []
    Log.write (.success
      ("Bindings in " ++ project.outputDirectory.display ++ ", library in " ++ plan.library.display))
  announces _ _ := ⟨_, rfl⟩
  tells _ _ host := by
    rw [run_andThen]
    exact (Host.logsOnly_emit _ host).trans (Host.logsOnly_write _ _)

/-- The only step of the build command. -/
def onlyStep : Manner where
  announce project := do
    printHeaded "Source:" project.source.display
    printHeaded "Service:" project.service
  label := none
  tell _ plan := do
    printHeaded "Library:" plan.library.display
    printHeaded "Header:" plan.header.display
  announces _ _ := ⟨_, rfl⟩
  tells _ _ host := (Host.logsOnly_emit _ host).trans (Host.logsOnly_emit _ _)

theorem runMake_eq (behaviour : Program.Behaviour) (source : Option Path) :
    runMake behaviour source = opening "Handling make command" source >>= fun opened =>
      generating (fun _ => ("[1/2]", "Generating PHP bindings...")) (some "Generate step failed")
        opened.2 >>= fun _ => building secondStep behaviour opened := by
  unfold runMake opening generating building asStep secondStep
  simp only [bind_assoc, pure_bind]
  rfl

theorem runBuild_eq (behaviour : Program.Behaviour) (source : Option Path) :
    runBuild behaviour source = opening "Handling build command" source >>=
      building onlyStep behaviour := by
  unfold runBuild opening building onlyStep
  simp only [bind_assoc, pure_bind]
  rfl

/-- What a command begins with, by the working directory and the project file. -/
def opened (host : Host) (source : Option Path) : Except Failure (Path × Project) :=
  if host.files.isDirectory host.directory then
    match host.resolved source with
    | .ok project => .ok (host.workingPath, project)
    | .error error => .error ⟨none, .project error⟩
  else .error ⟨none, .noWorkingDirectory .notFound⟩

/-- Beginning a command only logs and tells. -/
theorem opening_on (handling : Text) (source : Option Path) (host : Host) :
    ∃ emissions, (opening handling source).on host =
      (opened ((Log.write (.debug handling)).run host).2 source,
        { ((Log.write (.debug handling)).run host).2 with emissions }) := by
  unfold opening
  rw [on_lift_bind]
  generalize ((Log.write (.debug handling)).run host).2 = logged
  have home := workingDirectory_on logged
  obtain ⟨emissions, resolving⟩ := Project.resolve_on source logged.workingPath logged
  unfold opened
  split
  · next isDirectory =>
    rw [if_pos isDirectory] at home
    rw [on_bind_of_ok home]
    change _ = (logged.resolved source, _) at resolving
    cases result : logged.resolved source with
    | ok project =>
      rw [result] at resolving
      exact ⟨emissions, on_bind_of_ok (on_orElseThrow_of_ok resolving _) _⟩
    | error error =>
      rw [result] at resolving
      exact ⟨emissions, on_bind_of_error (on_orElseThrow_of_error resolving _) _⟩
  · next notDirectory =>
    rw [if_neg notDirectory] at home
    exact ⟨logged.emissions, on_bind_of_error home _⟩

/-- Commands begin in the same way on alike hosts. -/
theorem opened_alike (alike : frame.Alike host other)
    (off : frame.logLocation? ≠ some (destination frame.directory frame.configPath)) :
    opened host source = opened other source := by
  cases alike with
  | @intro files others emissions otherEmissions alike =>
    have resolved : Host.resolved { frame with files, emissions } source =
        Host.resolved { frame with files := others, emissions := otherEmissions } source := by
      change Project.resolved _ source (Config.loaded _
          (files.readText frame.directory frame.configPath)) =
        Project.resolved _ source (Config.loaded _
          (others.readText frame.directory frame.configPath))
      rw [alike.readText off]
      rfl
    unfold opened
    rw [resolved]
    dsimp only
    rw [isDirectory_congr alike.kinds]
    rfl

theorem opened_eq_ok_iff {start : Path × Project} :
    opened host source = .ok start ↔
      host.files.entryAt? host.directory = some .directory ∧ host.resolved source = .ok start.2 ∧
        start.1 = host.workingPath := by
  obtain ⟨directory, project⟩ := start
  simp only [opened, isDirectory, beq_iff_eq]
  split
  · next found => cases host.resolved source <;> simp [found, eq_comm, and_comm]
  · next missing => simp [missing]

/-! ### The generating step -/

/-- An effect that does nothing but log, and leaves a stamp. -/
def Stamps (effect : Effect Unit) : Prop :=
  ∀ host : Host, host.LogsOnly (effect.run host).2 ∧ (effect.run host).2.Logged

theorem stamps_success (text : Text) : Stamps (Log.write (.success text)) :=
  fun host => ⟨Host.logsOnly_write _ host, logged_success text host⟩

theorem Stamps.behind {first second : Effect Unit}
    (logs : ∀ host : Host, host.LogsOnly (first.run host).2) (stamps : Stamps second) :
    Stamps (do first; second) :=
  fun host => ⟨(logs host).trans (stamps _).1, (stamps _).2⟩

/-- A report ends with a message, which leaves its stamp. -/
theorem stamps_reportGenerated (generated : Generated) : Stamps (reportGenerated generated) := by
  intro host
  unfold reportGenerated
  rw [run_get_bind]
  refine Stamps.behind (Host.logsOnly_emit _)
    (Stamps.behind (Host.logsOnly_for (fun _ => Host.logsOnly_emit _) _) ?_) host
  dsimp only
  split
  · exact Stamps.behind (Host.logsOnly_write _) (stamps_success _)
  · exact stamps_success _

/-- Where a generating step goes on after what it announces. -/
theorem generating_on (heading : Project → Text × Text) (label : Option Text) (project : Project)
    (host : Host) :
    ∃ emissions, (generating heading label project).on host =
      (((generate project).orElseThrow fun error => ⟨label, .project error⟩) >>= fun generated =>
        (reportGenerated generated : Run Unit)).on { host with emissions } := by
  unfold generating
  rw [on_lift_bind]
  exact ⟨_, rfl⟩

/-- A generating step on alike hosts has the same cause to fail, and leaves alike hosts. -/
theorem generating_agrees (alike : frame.Alike host other)
    (off : frame.logLocation? ≠ some (destination frame.directory project.source))
    (heading otherHeading : Project → Text × Text) (label otherLabel : Option Text) :
    ((generating heading label project).on host).1.mapError Failure.cause =
        ((generating otherHeading otherLabel project).on other).1.mapError Failure.cause ∧
      frame.Alike ((generating heading label project).on host).2
        ((generating otherHeading otherLabel project).on other).2 := by
  obtain ⟨emissions, here⟩ := generating_on heading label project host
  obtain ⟨otherEmissions, there⟩ := generating_on otherHeading otherLabel project other
  rw [here, there]
  have announced := alike.emit emissions otherEmissions
  obtain ⟨same, still⟩ := steady_generate off announced
  rcases ran : (generate project).on { host with emissions } with ⟨result, between⟩
  rcases otherRan : (generate project).on { other with emissions := otherEmissions } with
    ⟨otherResult, otherBetween⟩
  rw [ran, otherRan] at same still
  obtain rfl : result = otherResult := same
  cases result with
  | error error =>
    rw [on_bind_of_error (on_orElseThrow_of_error ran _),
      on_bind_of_error (on_orElseThrow_of_error otherRan _)]
    exact ⟨rfl, still⟩
  | ok generated =>
    rw [on_bind_of_ok (on_orElseThrow_of_ok ran _), on_bind_of_ok (on_orElseThrow_of_ok otherRan _)]
    exact ⟨rfl, steady_reportGenerated generated still⟩

/-- A generating step that succeeds is a run of the generator and a report. -/
theorem generating_inv {heading : Project → Text × Text} {label : Option Text}
    (done : (generating heading label project).on host = (.ok (), after)) :
    ∃ emissions generated between,
      Generates project { host with emissions } (.ok generated) between ∧
        between.LogsOnly after ∧ after.Logged := by
  obtain ⟨emissions, here⟩ := generating_on heading label project host
  rw [here] at done
  have ran := generates project { host with emissions }
  rcases generated : (generate project).on { host with emissions } with ⟨error | value, between⟩
  · rw [on_bind_of_error (on_orElseThrow_of_error generated _)] at done
    simp at done
  · rw [on_bind_of_ok (on_orElseThrow_of_ok generated _)] at done
    rw [generated] at ran
    obtain ⟨logs, logged⟩ := stamps_reportGenerated value between
    have left : after = ((reportGenerated value).run between).2 := (congrArg Prod.snd done).symm
    exact ⟨emissions, value, between, ran, left ▸ logs, left ▸ logged⟩

/-- A command that begins when only something was logged works on the project that was there. -/
theorem opened_of_logged {logged : Host} {start : Path × Project} (tree : host.files.isTree = true)
    (offConfig : host.logLocation? ≠ some (destination host.directory host.configPath))
    (logs : host.LogsOnly logged) (begins : opened logged source = .ok start) :
    host.Rooted ∧ host.resolved source = .ok start.2 := by
  obtain ⟨found, resolved, -⟩ := opened_eq_ok_iff.mp begins
  rw [logs.setting.directory] at found
  have rooted := Host.rooted_of_tree tree (logs.fixed _ found)
  have unchanged : MayMake (fun _ => False) host.files logged.files
      (destination host.directory host.configPath) := .inl (logs.elsewhere _ offConfig)
  exact ⟨rooted, (rooted.resolved_eq_ok_iff logs.setting logs.grown unchanged).mpr resolved⟩

/-- A command begins as it began before generating succeeded. -/
theorem opened_again {logged between : Host} {generated : Generated} {start : Path × Project}
    (tree : host.files.isTree = true)
    (offConfig : host.logLocation? ≠ some (destination host.directory host.configPath))
    (offSource : host.logLocation? ≠ some (destination host.directory start.2.source))
    (logs : host.LogsOnly logged) (first : opened logged source = .ok start)
    (ran : Generates start.2 logged (.ok generated) between) (later : between.LogsOnly after) :
    opened after source = .ok start := by
  obtain ⟨found, -, home⟩ := opened_eq_ok_iff.mp first
  obtain ⟨rooted, resolved⟩ := opened_of_logged tree offConfig logs first
  rw [← logs.setting.logLocation?, ← logs.setting.directory] at offSource
  obtain ⟨changed, grown, -⟩ := ran.upToDate offSource
  obtain ⟨base, _, completed⟩ := ran.leaves
  have setting := changed.trans later.setting
  have grows := grown.trans later.grown
  have notConfig : destination logged.directory generated.path ≠
      destination host.directory host.configPath := by
    rw [completed.path, logs.setting.directory]
    exact Service.classPath_ne_config _ _ (Path.slash_notMem_baseName completed.named)
  have made : MayMake (OnTheWay start.2 logged) host.files after.files
      (destination host.directory host.configPath) := by
    have atFirst : MayMake (OnTheWay start.2 logged) host.files logged.files
        (destination host.directory host.configPath) := .inl (logs.elsewhere _ offConfig)
    rw [← logs.setting.logLocation?] at offConfig
    refine (atFirst.trans (completed.elsewhere _ offConfig (completed.path ▸ notConfig.symm))).trans
      (.inl (later.elsewhere _ ?_))
    rw [changed.logLocation?]
    exact offConfig
  refine opened_eq_ok_iff.mpr ⟨?_, ?_, ?_⟩
  · rw [setting.directory]
    exact grows.directory found
  · exact (rooted.resolved_eq_ok_iff (logs.setting.trans setting) (logs.grown.trans grows) made).mp
      resolved
  · rw [home, setting.workingPath]

/-! ### The building step -/

/-- Where a building step goes on after what it announces. -/
theorem building_on (manner : Manner) (behaviour : Program.Behaviour) (start : Path × Project)
    (host : Host) :
    ∃ emissions, (building manner behaviour start).on host =
      (((Build.build behaviour start.2 start.1).orElseThrow fun error =>
        ⟨manner.label, .project error⟩) >>= fun plan =>
          (manner.tell start.2 plan : Run Unit)).on { host with emissions } := by
  obtain ⟨emissions, announced⟩ := manner.announces start.2 host
  unfold building
  rw [on_lift_bind, announced]
  exact ⟨emissions, rfl⟩

/-- A building step ends as its build ends, and only logs afterwards. -/
theorem building_ends (manner : Manner) (behaviour : Program.Behaviour) (start : Path × Project)
    (host : Host) :
    ∃ emissions,
      ((building manner behaviour start).on host).1.mapError Failure.cause =
        (((Build.build behaviour start.2 start.1).on { host with emissions }).1.mapError
          Cause.project).map (fun _ => ()) ∧
      ((Build.build behaviour start.2 start.1).on { host with emissions }).2.LogsOnly
        ((building manner behaviour start).on host).2 := by
  obtain ⟨emissions, announced⟩ := building_on manner behaviour start host
  refine ⟨emissions, ?_⟩
  rw [announced]
  rcases built : (Build.build behaviour start.2 start.1).on { host with emissions } with
    ⟨error | plan, after⟩
  · rw [on_bind_of_error (on_orElseThrow_of_error built _)]
    exact ⟨rfl, .refl after⟩
  · rw [on_bind_of_ok (on_orElseThrow_of_ok built _)]
    exact ⟨rfl, manner.tells start.2 plan after⟩

/-- Building steps on alike hosts have the same cause to fail, and end in the same way. -/
theorem building_agrees (alike : frame.Alike host other)
    (ignores : Program.IgnoresLog behaviour frame.logLocation?) (manner otherManner : Manner)
    (start : Path × Project) :
    ((building manner behaviour start).on host).1.mapError Failure.cause =
        ((building otherManner behaviour start).on other).1.mapError Failure.cause ∧
      Host.SameEnd frame.logLocation? ((building manner behaviour start).on host).2
        ((building otherManner behaviour start).on other).2 := by
  obtain ⟨emissions, ended, logs⟩ := building_ends manner behaviour start host
  obtain ⟨otherEmissions, otherEnded, otherLogs⟩ := building_ends otherManner behaviour start other
  have announced := alike.emit emissions otherEmissions
  obtain ⟨same, sameEnd⟩ : _ ∧ Host.SameEnd frame.logLocation?
      ((Build.build behaviour start.2 start.1).on { host with emissions }).2 _ :=
    Build.build_agrees announced ignores
  rw [ended, otherEnded, same]
  exact ⟨rfl, sameEnd.logged logs otherLogs⟩

/-- A building step leaves what the toolchain leaves. -/
theorem building_leaves (manner : Manner) {start : Path × Project}
    (settled : host.files.Settled host.directory start.2.libraryDirectory) :
    Build.Leaves behaviour host ((building manner behaviour start).on host).2 := by
  obtain ⟨emissions, -, logs⟩ := building_ends manner behaviour start host
  have sameStart : Host.SameEnd host.logLocation? host { host with emissions } :=
    ⟨fun _ _ => rfl, rfl, rfl, rfl⟩
  have leaves : Build.Leaves behaviour { host with emissions } _ := Build.build_leaves settled logs
  exact leaves.of_sameEnd sameStart

/-! ### Both steps -/

/-- The log is neither the project file in the working directory nor the source. -/
structure LogApart (host : Host) (source : Option Path) : Prop where
  config : host.logLocation? ≠ some (destination host.directory host.configPath)
  source : ∀ project,
    ((Project.resolve source host.workingPath).on host).1 = .ok project →
      host.logLocation? ≠ some (destination host.directory project.source)

/-- How a command that does both ends, beside generating and beside generating and then building: for
the same cause, with the same files but for the log, and with the same programs started. None is
started when generating fails; and what generating leaves stays as it is, apart from what the
toolchain does. -/
structure DoesBoth (behaviour : Program.Behaviour) (host : Host)
    (both generated inTurn : Except Failure Unit × Host) : Prop where
  cause : both.1.mapError Failure.cause = inTurn.1.mapError Failure.cause
  ending : Host.SameEnd host.logLocation? both.2 inTurn.2
  unstarted : ∀ failure, generated.1 = .error failure → both.2.launches = host.launches
  kept : generated.1 = .ok () → Build.Leaves behaviour generated.2 both.2

theorem DoesBoth.of_failed {failure otherFailure : Failure}
    (same : failure.cause = otherFailure.cause) (alike : host.Alike after other) :
    DoesBoth behaviour host (.error failure, after) (.error otherFailure, other)
      (.error otherFailure, other) where
  cause := congrArg Except.error same
  ending := alike.sameEnd
  unstarted _ _ := by rw [show after = _ from alike.setting]
  kept done := by simp at done

/-- Generating puts the directory of the library in place. -/
theorem library_of_generating {heading : Project → Text × Text} {label : Option Text}
    (off : host.logLocation? ≠ some (destination host.directory project.source))
    (done : (generating heading label project).on host = (.ok (), after)) :
    after.files.Settled after.directory project.libraryDirectory := by
  obtain ⟨emissions, generated, between, ran, logs, -⟩ := generating_inv done
  obtain ⟨-, -, _, _, upToDate⟩ := ran.upToDate off
  rw [logs.setting.directory]
  exact logs.grown.settled upToDate.library

/-- On hosts that are alike both steps in a row do what the commands do in turn. -/
theorem steps_doBoth {start : Path × Project} (tree : host.files.isTree = true)
    (offConfig : host.logLocation? ≠ some (destination host.directory host.configPath))
    (offSource : host.logLocation? ≠ some (destination host.directory start.2.source))
    (ignores : Program.IgnoresLog behaviour host.logLocation?) {here there : Host}
    (alike : host.Alike here there) (logs : host.LogsOnly there)
    (first : opened there source = .ok start) (heading otherHeading : Project → Text × Text)
    (label otherLabel : Option Text) (manner : Manner) :
    DoesBoth behaviour host
      ((generating heading label start.2 >>= fun _ => building manner behaviour start).on here)
      ((generating otherHeading otherLabel start.2).on there)
      ((generating otherHeading otherLabel start.2 >>= fun _ => runBuild behaviour source).on
        there) := by
  obtain ⟨same, still⟩ :=
    generating_agrees alike offSource heading otherHeading label otherLabel
  rcases done : (generating heading label start.2).on here with ⟨failure | _, generated⟩ <;>
    rcases otherDone : (generating otherHeading otherLabel start.2).on there with
      ⟨otherFailure | _, otherGenerated⟩ <;>
    rw [done, otherDone] at same still
  · rw [on_bind_of_error done, on_bind_of_error otherDone]
    exact .of_failed (Except.error.inj same) still
  · contradiction
  · contradiction
  · have here := alike.setting
    have library := library_of_generating (by rwa [here.logLocation?, here.directory]) done
    obtain ⟨_, _, _, _, _, logged⟩ := generating_inv done
    obtain ⟨emissions, value, between, ran, reported, -⟩ := generating_inv otherDone
    obtain ⟨otherEmissions, beginning⟩ :=
      opening_on "Handling build command" source otherGenerated
    have telling := Host.logsOnly_write (.debug "Handling build command") otherGenerated
    have ready := write_other still logged (.debug "Handling build command")
    rw [opened_again tree offConfig offSource (logs.trans (.emit there emissions)) first ran
      (reported.trans telling)] at beginning
    rw [on_bind_of_ok done, on_bind_of_ok otherDone, runBuild_eq, on_bind_of_ok beginning]
    obtain ⟨cause, ending⟩ :=
      building_agrees (ready.emit_other otherEmissions) ignores manner onlyStep start
    exact
      { cause
        ending
        unstarted := by simp
        kept := fun _ => (building_leaves manner library).of_sameEnd still.sameEnd.symm }

/-- Generating and building in one go does what generating and then building does, in a tree whose log
is apart from the files of the project, with a toolchain that pays no attention to the log. -/
theorem runMake_doesBoth (tree : host.files.isTree = true) (apart : LogApart host source)
    (ignores : Program.IgnoresLog behaviour host.logLocation?) :
    DoesBoth behaviour host ((runMake behaviour source).on host) ((runGenerate source).on host)
      ((runGenerate source >>= fun _ => runBuild behaviour source).on host) := by
  obtain ⟨emissions, beginning⟩ := opening_on "Handling make command" source host
  obtain ⟨otherEmissions, otherBeginning⟩ := opening_on "Handling generate command" source host
  have logs := Host.logsOnly_write (.debug "Handling generate command") host
  have alike := write_debug (.refl host) "Handling make command" "Handling generate command"
  generalize ((Log.write (.debug "Handling make command")).run host).2 = logged at *
  generalize ((Log.write (.debug "Handling generate command")).run host).2 = otherLogged at *
  rw [opened_alike alike apart.config] at beginning
  rw [runMake_eq, runGenerate_eq, bind_assoc]
  have still := alike.emit emissions otherEmissions
  cases first : opened otherLogged source with
  | error failure =>
    rw [first] at beginning otherBeginning
    rw [on_bind_of_error beginning, on_bind_of_error otherBeginning, on_bind_of_error otherBeginning]
    exact .of_failed rfl still
  | ok start =>
    rw [first] at beginning otherBeginning
    rw [on_bind_of_ok beginning, on_bind_of_ok otherBeginning, on_bind_of_ok otherBeginning]
    obtain ⟨_, resolving⟩ := Project.resolve_on source host.workingPath host
    have resolved := (opened_of_logged tree apart.config logs first).2
    have offSource := apart.source start.2 ((congrArg Prod.fst resolving).trans resolved)
    exact steps_doBoth tree apart.config offSource ignores still (logs.trans (.emit _ _)) first
      _ _ _ _ _

/-- The project of the example, with a toolchain that the environment names. -/
def toolchainHost : Host :=
  { adderHost with
    files := ⟨adderHost.files.entries ++ [([Utf8.encode "bin"], .directory),
      ([Utf8.encode "go", Utf8.encode "bin"], .file (0x7F :: Utf8.encode "ELF") true)]⟩
    environment := [("GOPHP_GO", Utf8.encode "/bin/go")] }

theorem logApart_toolchainHost : LogApart toolchainHost none where
  config := by decide +kernel
  source project resolved := by
    have placed : ((Project.resolve none toolchainHost.workingPath).on toolchainHost).1.toOption.map
        (·.source) = some (.ofText "/adder.go") := by decide +kernel
    have isSource : project.source = .ofText "/adder.go" := by
      simpa [resolved, Except.toOption] using placed
    rw [isSource]
    decide +kernel

/-- A toolchain that builds the library of the example. -/
def compiling : Program.Behaviour := fun _ files =>
  (⟨some 0, [], []⟩, files.put (destination [] (.ofText "/dist/lib/adder-linux-amd64.so"))
    (.file [] false))

theorem compiling_ignoresLog (log : Option Location) : Program.IgnoresLog compiling log := by
  intro invocation files others same
  refine ⟨rfl, fun location off => ?_⟩
  have inside : destination [] (.ofText "/dist/lib/adder-linux-amd64.so") ≠ [] := by decide +kernel
  dsimp only [compiling]
  rw [entryAt?_put _ _ _ _ inside, entryAt?_put _ _ _ _ inside, same location off]

/-- The example is made, as it is generated and then built. -/
theorem runMake_doesBoth_adder :
    ((runMake compiling none).on toolchainHost).1 = .ok () ∧
      DoesBoth compiling toolchainHost ((runMake compiling none).on toolchainHost)
        ((runGenerate none).on toolchainHost)
        ((runGenerate none >>= fun _ => runBuild compiling none).on toolchainHost) :=
  ⟨by decide +kernel, runMake_doesBoth (by decide +kernel) logApart_toolchainHost
    (compiling_ignoresLog _)⟩

/-- A toolchain that fails, and empties the service class of the example, when the log says that both
steps are done in one go. -/
def prying : Program.Behaviour := fun _ files =>
  match files.entryAt? [Utf8.encode "gophp.log", Utf8.encode "log"] with
  | some (.file content _) =>
      if Text.hasFragment "Handling make command" (Utf8.decodeLossy content) then
        (⟨some 1, [], []⟩, files.put [Utf8.encode "AdderService.php", Utf8.encode "dist"]
          (.file [] false))
      else (⟨some 0, [], []⟩, files)
  | _ => (⟨some 0, [], []⟩, files)

/-- What a toolchain finds in the log is not the same for both steps in one go. -/
theorem not_doesBoth_prying :
    ¬ ∀ (behaviour : Program.Behaviour) (source : Option Path) (host : Host),
      host.files.isTree = true → LogApart host source →
        DoesBoth behaviour host ((runMake behaviour source).on host) ((runGenerate source).on host)
          ((runGenerate source >>= fun _ => runBuild behaviour source).on host) := by
  intro always
  have both := always prying none toolchainHost (by decide +kernel) logApart_toolchainHost
  have fails : ((runMake prying none).on toolchainHost).1.mapError Failure.cause =
      .error (.project (.buildFailed (some 1))) := by decide +kernel
  have succeeds : ((runGenerate none >>= fun _ => runBuild prying none).on
      toolchainHost).1.mapError Failure.cause = .ok () := by decide +kernel
  have same := both.cause
  rw [fails, succeeds] at same
  contradiction

end FfiBindings.Command
