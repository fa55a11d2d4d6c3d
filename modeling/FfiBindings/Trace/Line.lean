import FfiBindings.Trace.Filter
import FfiBindings.Text.Quoted
import FfiBindings.Log

/-!
# Events as lines

How an event is shown on standard error: the instant, the severity, the part of the program and the
message, on one line and in colours where these are wanted.
-/

namespace FfiBindings.Trace

/-- The severity in five columns. -/
def severityName : Severity → Text
  | .error => "ERROR"
  | .warn => " WARN"
  | .info => " INFO"
  | .debug => "DEBUG"
  | .trace => "TRACE"

/-- The code for the colour of a severity. -/
def severityColor : Severity → Text
  | .error => "31"
  | .warn => "33"
  | .info => "32"
  | .debug => "34"
  | .trace => "35"

/-- One character of a message. Characters that could change the terminal are written out. -/
def plainChar (c : Char) : Text :=
  let code := c.toNat
  if code == 0x1B then "\\x1b"
  else if code == 0x07 then "\\x07"
  else if code == 0x08 then "\\x08"
  else if code == 0x0C then "\\x0c"
  else if code == 0x7F then "\\x7f"
  else if 0x80 ≤ code && code ≤ 0x9F then Quoted.codePoint c
  else [c]

/-- How events are shown. -/
structure Style where
  filter : Filter
  isColored : Bool
  deriving Repr, DecidableEq

/-- The line of an event. -/
def line (style : Style) (clock : Clock) (event : TraceEvent) : Text :=
  let paint := Log.paint style.isColored
  paint Log.dimmed clock.instant ++ " " ++
    paint (severityColor event.severity) (severityName event.severity) ++ " " ++
    paint Log.dimmed event.target ++ paint Log.dimmed ":" ++ " " ++
    event.message.flatMap plainChar ++ "\n"

end FfiBindings.Trace
