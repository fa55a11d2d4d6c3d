import FfiBindings.Text.Basic

/-!
# UTF-8

Texts as bytes and back. Bytes are cut into pieces, each a character or the longest stretch that
starts like a character and fails to become one. A byte string is a text when no piece is broken;
for display every broken piece is shown as one replacement character.
-/

namespace FfiBindings.Utf8

/-- The bytes of one character, from one to four. -/
def encodeChar (c : Char) : Bytes :=
  let code := c.toNat
  let byte (n : Nat) : UInt8 := UInt8.ofNat n
  if code < 0x80 then [byte code]
  else if code < 0x800 then [byte (0xC0 + code / 64), byte (0x80 + code % 64)]
  else if code < 0x10000 then
    [byte (0xE0 + code / 4096), byte (0x80 + code / 64 % 64), byte (0x80 + code % 64)]
  else
    [byte (0xF0 + code / 262144), byte (0x80 + code / 4096 % 64), byte (0x80 + code / 64 % 64),
      byte (0x80 + code % 64)]

/-- The bytes of a text. -/
def encode (text : Text) : Bytes := text.flatMap encodeChar

/-- What stands at the head of a byte string. -/
inductive Piece where
  /-- A well-formed character. -/
  | char (c : Char)
  /-- Bytes that begin no character. -/
  | broken (bytes : Bytes)
  deriving Repr, DecidableEq

/-- What a lead byte of several announces: the inclusive range of its second byte and the number of
    further bytes. The narrowed ranges leave out overlong forms, surrogates and code points that
    are too large. -/
def leadForm (lead : Nat) : Option (Nat × Nat × Nat) :=
  if lead < 0xC2 then none
  else if lead ≤ 0xDF then some (0x80, 0xBF, 0)
  else if lead == 0xE0 then some (0xA0, 0xBF, 1)
  else if lead == 0xED then some (0x80, 0x9F, 1)
  else if lead ≤ 0xEF then some (0x80, 0xBF, 1)
  else if lead == 0xF0 then some (0x90, 0xBF, 2)
  else if lead ≤ 0xF3 then some (0x80, 0xBF, 2)
  else if lead == 0xF4 then some (0x80, 0x8F, 2)
  else none

/-- The part of the code point that the lead byte holds. -/
def leadValue (lead : Nat) : Nat :=
  if lead < 0xE0 then lead % 32 else if lead < 0xF0 then lead % 16 else lead % 8

/-- Read the given number of continuation bytes onto a value. Where one is missing, the bytes seen
    so far are the broken piece. -/
def continuation : Nat → Nat → Bytes → Bytes → Piece × Bytes
  | 0, value, _, rest => (.char (Char.ofNat value), rest)
  | _ + 1, _, seen, [] => (.broken seen, [])
  | more + 1, value, seen, b :: rest =>
      if 0x80 ≤ b.toNat && b.toNat ≤ 0xBF then
        continuation more (value * 64 + b.toNat % 64) (seen ++ [b]) rest
      else (.broken seen, b :: rest)

/-- The first piece of a byte string that starts with `b`, and the bytes after it. -/
def next (b : UInt8) (rest : Bytes) : Piece × Bytes :=
  if b.toNat < 0x80 then (.char (Char.ofNat b.toNat), rest)
  else
    match leadForm b.toNat, rest with
    | some (low, high, more), second :: after =>
        if low ≤ second.toNat && second.toNat ≤ high then
          continuation more (leadValue b.toNat * 64 + second.toNat % 64) [b, second] after
        else (.broken [b], rest)
    | _, _ => (.broken [b], rest)

theorem continuation_length_le (more value : Nat) (seen rest : Bytes) :
    (continuation more value seen rest).2.length ≤ rest.length := by
  induction more generalizing value seen rest with
  | zero => simp [continuation]
  | succ more ih =>
    cases rest with
    | nil => simp [continuation]
    | cons b rest =>
      simp only [continuation]
      split
      · exact Nat.le_succ_of_le (ih _ _ rest)
      · exact Nat.le_refl _

theorem next_length_le (b : UInt8) (rest : Bytes) : (next b rest).2.length ≤ rest.length := by
  unfold next
  split
  · exact Nat.le_refl _
  · split
    · split
      · exact Nat.le_succ_of_le (continuation_length_le ..)
      · exact Nat.le_refl _
    · exact Nat.le_refl _

/-- The pieces of a byte string, in order. -/
def pieces : Bytes → List Piece
  | [] => []
  | b :: rest => (next b rest).1 :: pieces (next b rest).2
termination_by bytes => bytes.length
decreasing_by exact Nat.lt_succ_of_le (next_length_le b rest)

/-- The character of a well-formed piece. -/
def Piece.char? : Piece → Option Char
  | .char c => some c
  | .broken _ => none

/-- The text that the bytes spell, when every piece is well formed. -/
def decode? (bytes : Bytes) : Option Text := (pieces bytes).mapM Piece.char?

/-- The bytes as a text for display: one replacement character for each broken piece. -/
def decodeLossy (bytes : Bytes) : Text :=
  (pieces bytes).map fun piece => piece.char?.getD '\uFFFD'

end FfiBindings.Utf8
