import FfiBindings.Trace.Directive

/-!
# Which events are shown

A filter is a list of directives. The one that fits an event best decides whether it is shown. A
filter that cannot be read is refused as a whole.
-/

namespace FfiBindings.Trace

/-- The rank of a severity, the most important first. -/
def rank : Severity → Nat
  | .error => 1
  | .warn => 2
  | .info => 3
  | .debug => 4
  | .trace => 5

/-- Whether a level lets a severity through. -/
def admits (level : Level) (severity : Severity) : Bool :=
  level.any fun least => rank severity ≤ rank least

/-- Which events are shown. -/
structure Filter where
  directives : List Directive
  deriving Repr, DecidableEq

namespace Filter

/-- Show everything down to a severity. -/
def upTo (severity : Severity) : Filter := ⟨[.all (some severity)]⟩

/-- Read a filter. One without directives shows errors only. -/
def parse? (text : Text) : Option Filter := do
  let pieces := (Text.split ',' text).filter (! ·.isEmpty)
  let directives ← pieces.mapM Directive.parse?
  return if directives.isEmpty then upTo .error else ⟨directives⟩

/-- The filter for a verbosity: warnings, then debugging, then everything. -/
def ofVerbosity (verbosity : Nat) : Filter :=
  match verbosity with
  | 0 => upTo .warn
  | 1 => upTo .debug
  | _ => upTo .trace

/-- The name of the filter for a verbosity. -/
def nameOfVerbosity (verbosity : Nat) : Text :=
  match verbosity with
  | 0 => "warn"
  | 1 => "debug"
  | _ => "trace"

/-- Whether one fit is at least as good as another. -/
def isAsGood (fit other : Nat × Nat) : Bool :=
  other.1 < fit.1 || (other.1 == fit.1 && other.2 ≤ fit.2)

/-- The level for a part of the program: that of the directive that fits best, the last of equals.
    Without one that fits, nothing is shown. -/
def levelFor (filter : Filter) (target : Text) : Level :=
  let best := filter.directives.foldl (fun (best : Option ((Nat × Nat) × Level)) directive =>
    match directive.fit? target with
    | none => best
    | some fit =>
        if best.all fun (other, _) => isAsGood fit other then some (fit, directive.level)
        else best) none
  best.bind (·.2)

/-- Whether an event is shown. -/
def shows (filter : Filter) (event : TraceEvent) : Bool :=
  admits (filter.levelFor event.target) event.severity

end Filter

end FfiBindings.Trace
