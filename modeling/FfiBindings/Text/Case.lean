import FfiBindings.Text.Basic
import FfiBindings.Text.CaseTable

/-!
# Lowercase and uppercase

Full case conversion: a character may turn into several, and the capital sigma has a form of its
own at the end of a word. All other characters are converted without regard to their neighbours.
-/

namespace FfiBindings.Text

/-- Move a code point along the run that holds it, if there is one. -/
def shiftCase (runs : List CaseRun) (c : Char) : Char :=
  let code := c.toNat
  match runs.find? fun run =>
      run.first ≤ code && code ≤ run.last && (code - run.first) % run.step == 0 with
  | some run => Char.ofNat (Int.toNat (code + run.distance))
  | none => c

/-- The lowercase form of one character. The dotted capital I keeps its dot as a second
    character. -/
def lowerChar (c : Char) : Text :=
  if c.toNat < 0x80 then [c.toLower]
  else if c == '\u0130' then ['i', '\u0307']
  else [shiftCase lowerRuns c]

/-- The uppercase form of one character. -/
def upperChar (c : Char) : Text :=
  if c.toNat < 0x80 then [c.toUpper]
  else
    match upperSequences.lookup c.toNat with
    | some codes => codes.map Char.ofNat
    | none => [shiftCase upperRuns c]

/-- Whether the first character that is not passed over has case. -/
def meetsCased (text : Text) : Bool :=
  match text.dropWhile (fun c => inRanges caseIgnorableRanges c.toNat) with
  | [] => false
  | c :: _ => inRanges casedRanges c.toNat

/-- Lowercase the rest of a text, given what stands before it in reverse. A capital sigma becomes
    the final form when a cased character precedes it and none follows. -/
def lowerAfter (before : Text) : Text → Text
  | [] => []
  | c :: rest =>
      let lowered :=
        if c == '\u03A3' then
          [if meetsCased before && !meetsCased rest then '\u03C2' else '\u03C3']
        else lowerChar c
      lowered ++ lowerAfter (c :: before) rest

/-- The lowercase form of a text. -/
def lower (text : Text) : Text := lowerAfter [] text

end FfiBindings.Text
