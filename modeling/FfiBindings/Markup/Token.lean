import FfiBindings.Markup.Scalar

/-!
# Tokens

The smallest parts of a document that mean something, each with the positions where it starts and
stops. Besides the written ones there are tokens for what indentation says: where a block
collection starts and ends, and that a scalar turned out to be a key.
-/

namespace FfiBindings.Markup

/-- What a token is. -/
inductive TokenKind where
  | streamStart
  | streamEnd
  | versionDirective (major minor : Nat)
  | tagDirective (handle expansion : Text)
  | documentStart
  | documentEnd
  | blockSequenceStart
  | blockMappingStart
  | blockEnd
  | flowSequenceStart
  | flowSequenceEnd
  | flowMappingStart
  | flowMappingEnd
  | blockEntry
  | flowEntry
  | key
  | value
  | alias (name : Text)
  | anchor (name : Text)
  | tag (handle suffix : Text)
  | scalar (value : Text) (style : ScalarStyle)
  deriving Repr, DecidableEq

/-- A token and its place. -/
structure Token where
  kind : TokenKind
  start : Mark
  stop : Mark
  deriving Repr, DecidableEq

end FfiBindings.Markup
