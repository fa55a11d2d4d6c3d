import FfiBindings.Proofs.Effects
import FfiBindings.Proofs.FileNames
import FfiBindings.Proofs.Removing

/-!
# What the log file holds

A log that was started has no file yet, whatever stood there before. Each call then adds its records
to the end of the file, under the clock of the call. Nothing that happens between calls matters as long
as it leaves the settings of the log and its file alone. So in the end the file is the print of all
records in the order of the calls, as long as it has room for them. The verbosity decides what is shown,
and nothing about the file.
-/

namespace FfiBindings.Log

variable {host after started last : Host} {directory : Path} {verbosity : Nat}

/-! ### Calls and their records -/

/-- A call to a log that was started: a message, or to show where the log file is. -/
inductive Call where
  | log (message : Message)
  | showPath
  deriving Repr, DecidableEq

namespace Call

def perform : Call → Effect Unit
  | .log message => write message
  | .showPath => Log.showPath

/-- What a call leaves in the log file. -/
def records : Call → List Text
  | .log message => message.records
  | .showPath => []

end Call

/-- The records of calls in their order, each under the clock of its call. -/
def stamped (calls : List (Clock × Call)) : List (Clock × Text) :=
  calls.flatMap fun made => made.2.records.map (made.1, ·)

/-- Records one after another, as lines. -/
def linesOf (records : List (Clock × Text)) : Bytes :=
  records.flatMap fun record => Utf8.encode (recordLine record.1 record.2)

/-- The file that holds some records, as far as they fit, and nothing else. It comes with the first
record. -/
def entryOf (limit : Option Nat) (records : List (Clock × Text)) : Option Entry :=
  if records.isEmpty then none
  else some (.file (FileSystem.fitting limit 0 (linesOf records)) false)

theorem entryOf_concat (limit : Option Nat) (records : List (Clock × Text)) (record : Clock × Text) :
    entryOf limit (records ++ [record]) =
      some (.file (FileSystem.fitting limit 0 (linesOf records) ++
        FileSystem.fitting limit (FileSystem.fitting limit 0 (linesOf records)).length
          (Utf8.encode (recordLine record.1 record.2))) false) := by
  simp [entryOf, linesOf, FileSystem.fitting_append]

/-! ### Runs -/

/-- What else may be done on a host: the settings of the log stay, files are kept within the same size as
before, and the file of the log can still be opened where it could, and is as it was. Everything else may
change, the working directory and the clock too. -/
def LeavesLog (host after : Host) : Prop :=
  after.log = host.log ∧ after.fileLimit = host.fileLimit ∧
    ∀ file ∈ host.log.file, ∀ target, host.files.openFile host.directory file = .ok target →
      after.files.openFile after.directory file = .ok target ∧
        after.files.entryAt? target = host.files.entryAt? target

/-- Calls made on a host one after another, each at the clock of the host that it is made on, with other
things done before, between and after them. -/
inductive Runs : Host → List (Clock × Call) → Host → Prop where
  | ended {host last : Host} (meanwhile : LeavesLog host last) : Runs host [] last
  | call {host ready last : Host} {call : Call} {calls : List (Clock × Call)}
      (meanwhile : LeavesLog host ready) (rest : Runs (call.perform.run ready).2 calls last) :
      Runs host ((ready.clock, call) :: calls) last

/-- A file is the log file of a host, can be opened, and holds some records, as far as they fit, and
nothing else. -/
def Holds (limit : Option Nat) (host : Host) (file : Path) (records : List (Clock × Text)) : Prop :=
  host.log.file = some file ∧ host.fileLimit = limit ∧
    ∃ target, host.files.openFile host.directory file = .ok target ∧
      host.files.entryAt? target = entryOf limit records

namespace Holds

variable {limit : Option Nat} {file : Path} {records : List (Clock × Text)}

theorem meanwhile (holds : Holds limit host file records) (left : LeavesLog host after) :
    Holds limit after file records := by
  obtain ⟨isFile, isLimit, target, opened, found⟩ := holds
  obtain ⟨sameLog, sameLimit, sameFile⟩ := left
  obtain ⟨stillOpened, same⟩ := sameFile file isFile target opened
  exact ⟨sameLog ▸ isFile, sameLimit.trans isLimit, target, stillOpened, same.trans found⟩

theorem emit (holds : Holds limit host file records) (emissions : List Emission) :
    Holds limit { host with emissions } file records := holds

/-- A record is added to the end of the log file, which is made for the first one. -/
theorem record (holds : Holds limit host file records) (text : Text) :
    Holds limit ((Log.record text).run host).2 file (records ++ [(host.clock, text)]) := by
  obtain ⟨isFile, rfl, target, opened, found⟩ := holds
  have old : host.files.contentAt target =
      (FileSystem.fitting host.fileLimit 0 (linesOf records), false) := by
    unfold FileSystem.contentAt
    rw [found]
    cases records with
    | nil => cases host.fileLimit <;> simp [entryOf, linesOf, FileSystem.fitting]
    | cons first rest => rfl
  have entry := entryOf_concat host.fileLimit records (host.clock, text)
  generalize FileSystem.fitting host.fileLimit 0 (linesOf records) = held at old entry
  have recorded : host.recorded text = host.files.put target (.file (held ++
      FileSystem.fitting host.fileLimit held.length (Utf8.encode (recordLine host.clock text)))
        false) := by
    simp [Host.recorded, isFile, FileSystem.append_of_openFile _ opened, old, Except.toOption]
  obtain ⟨-, put, grown, -⟩ := FileSystem.put_opened opened (held ++
    FileSystem.fitting host.fileLimit held.length (Utf8.encode (recordLine host.clock text))) false
  rw [← FileSystem.openFile_eq_destination opened] at put
  rw [Host.run_record, recorded]
  exact ⟨isFile, rfl, target,
    grown.openFile opened (FileSystem.kindAt?_eq_false_iff.mpr ⟨_, _, put⟩), put.trans entry.symm⟩

theorem foldl_record (holds : Holds limit host file records) (texts : List Text) :
    Holds limit (texts.foldl (fun host text => ((Log.record text).run host).2) host)
      file (records ++ texts.map (host.clock, ·)) := by
  induction texts generalizing host records with
  | nil => simpa using holds
  | cons text rest inductionHypothesis =>
    have sameClock : ((Log.record text).run host).2.clock = host.clock := by rw [Host.run_record]
    have further := inductionHypothesis (holds.record text)
    rwa [sameClock, List.append_assoc] at further

/-- A call adds its records. -/
theorem perform (holds : Holds limit host file records) (call : Call) :
    Holds limit (call.perform.run host).2 file (records ++ call.records.map (host.clock, ·)) := by
  cases call with
  | log message =>
    obtain ⟨emissions, ran⟩ := Host.run_write message host
    change Holds limit ((write message).run host).2 file _
    rw [ran]
    exact (holds.foldl_record message.records).emit emissions
  | showPath =>
    rw [Call.records, List.map_nil, List.append_nil]
    exact holds.emit _

/-- Calls add their records in order. -/
theorem runs {calls : List (Clock × Call)} (holds : Holds limit host file records)
    (ran : Runs host calls last) : Holds limit last file (records ++ stamped calls) := by
  induction ran generalizing records with
  | ended left => simpa [stamped] using holds.meanwhile left
  | call left rest inductionHypothesis =>
    have further := inductionHypothesis ((holds.meanwhile left).perform _)
    rwa [List.append_assoc] at further

end Holds

/-! ### Starting -/

end FfiBindings.Log
