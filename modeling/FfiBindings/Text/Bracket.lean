import FfiBindings.Text.Utf8

/-!
# Matching brackets

Finds the parenthesis that closes a list whose opening parenthesis stands just before the text.
The three kinds of bracket nest alike and are not told apart, except that at the outermost depth
only a parenthesis closes the list.
-/

namespace FfiBindings.Bracket

/-- What one character does to the nesting. -/
inductive Role where
  | opening
  | closing
  | neutral
  deriving Repr, DecidableEq

/-- The role of a character: any bracket opens or closes, all else is neutral. -/
def role (c : Char) : Role :=
  if c == '(' || c == '[' || c == '\x7b' then .opening
  else if c == ')' || c == ']' || c == '\x7d' then .closing
  else .neutral

/-- Split a text at the parenthesis that closes depth zero, starting at a given depth: what stands
    before it and what stands after it. A square or curly bracket that closes depth zero, or the
    end of the text, leaves nothing to split at. -/
def splitAtClose (depth : Nat) : Text → Option (Text × Text)
  | [] => none
  | c :: rest =>
      let pass (deeper : Nat) : Option (Text × Text) :=
        (splitAtClose deeper rest).map fun (inside, after) => (c :: inside, after)
      match role c, depth with
      | .opening, _ => pass (depth + 1)
      | .neutral, _ => pass depth
      | .closing, shallower + 1 => pass shallower
      | .closing, 0 => if c == ')' then some ([], rest) else none

/-- The byte offset of the closing parenthesis in UTF-8. -/
def closeOffset? (text : Text) : Option Nat :=
  (splitAtClose 0 text).map fun (inside, _) => (Utf8.encode inside).length

end FfiBindings.Bracket
