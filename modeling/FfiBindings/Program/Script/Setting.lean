import FfiBindings.Text.Basic

/-!
# Settings of a shell

Letters after a dash switch ways of running a script on, and letters after a plus sign switch them
off. They stand in the first line of a script, or a script sets them for itself; what follows them
there becomes its arguments.
-/

namespace FfiBindings.Program.Script

/-- How a script is run. -/
structure Settings where
  /-- Whether patterns in words are left as they are instead of being matched with files. -/
  keepsPatterns : Bool
  /-- Whether a command that fails ends the script, unless its outcome is asked for. -/
  endsOnFailure : Bool
  /-- Whether a parameter without a value ends the script. -/
  refusesUnset : Bool
  /-- Whether every command is put out before it runs. -/
  tracesCommands : Bool
  /-- Whether commands are only read. -/
  onlyReads : Bool
  deriving Repr, DecidableEq

namespace Settings

/-- The settings of a script that asks for none. -/
def none : Settings := ⟨false, false, false, false, false⟩

/-- The letters of settings, and the names of those that have one. -/
def letters : List (Char × String) :=
  [('e', "errexit"), ('f', "noglob"), ('I', "ignoreeof"), ('i', "interactive"), ('m', "monitor"),
    ('n', "noexec"), ('s', "stdin"), ('x', "xtrace"), ('v', "verbose"), ('V', "vi"),
    ('E', "emacs"), ('C', "noclobber"), ('a', "allexport"), ('b', "notify"), ('u', "nounset")]

/-- Switch the setting of a letter on or off. Settings of which a script does not depend are taken
    as they come. -/
def switch? (settings : Settings) (isOn : Bool) (letter : Char) : Option Settings :=
  match letter with
  | 'f' => some { settings with keepsPatterns := isOn }
  | 'e' => some { settings with endsOnFailure := isOn }
  | 'u' => some { settings with refusesUnset := isOn }
  | 'x' => some { settings with tracesCommands := isOn }
  | 'n' => some { settings with onlyReads := isOn }
  | letter => if letters.any (·.1 == letter) then some settings else Option.none

/-- The letters of the settings that are on. -/
def shown (settings : Settings) : Text :=
  ([('e', settings.endsOnFailure), ('f', settings.keepsPatterns), ('n', settings.onlyReads),
    ('x', settings.tracesCommands), ('u', settings.refusesUnset)].filter (·.2)).map (·.1)

/-- Switch settings by their letters. A letter that is none is given back. -/
def switchAll (isOn : Bool) : Settings → Text → Except Text Settings
  | settings, [] => .ok settings
  | settings, letter :: rest =>
      match settings.switch? isOn letter with
      | some settings => switchAll isOn settings rest
      | Option.none => .error ['-', letter]

/-- Switch settings as the words ask for it, and give the words that are left for arguments, if
    there are to be new ones. -/
def ofWords (settings : Settings) : List Text → Except Text (Settings × Option (List Text))
  | [] => .ok (settings, Option.none)
  | word :: rest =>
      match word with
      | ['-', '-'] => .ok (settings, some rest)
      | ['-'] =>
          .ok ({ settings with tracesCommands := false },
            if rest.isEmpty then Option.none else some rest)
      | [sign, 'o'] =>
          if sign == '-' || sign == '+' then
            match rest with
            | [] => .ok (settings, Option.none)
            | name :: rest =>
                match letters.find? (·.2.toList == name) with
                | some (letter, _) =>
                    match settings.switch? (sign == '-') letter with
                    | some settings => ofWords settings rest
                    | Option.none => .error ("-o " ++ name)
                | Option.none => .error ("-o " ++ name)
          else .ok (settings, some (word :: rest))
      | sign :: letters =>
          if sign == '-' || sign == '+' then do
            ofWords (← settings.switchAll (sign == '-') letters) rest
          else .ok (settings, some (word :: rest))
      | [] => .ok (settings, some (word :: rest))

end Settings

end FfiBindings.Program.Script
