import FfiBindings.Text.Basic

/-!
# Patterns of shell scripts

A pattern is a text some of whose characters stand for themselves although they have a meaning in
patterns, as they were quoted. A star matches any text, a question mark any character, and brackets
any character of a set.
-/

namespace FfiBindings.Program.Script

/-- Characters, each with whether it stands for itself alone. -/
abbrev Pattern := List (Char × Bool)

/-- The characters of a class by its name, by a test. -/
def classOf? (name : Text) : Option (Char → Bool) :=
  match String.ofList name with
  | "alpha" => some Char.isAlpha
  | "digit" => some Char.isDigit
  | "alnum" => some Char.isAlphanum
  | "upper" => some Char.isUpper
  | "lower" => some Char.isLower
  | "space" => some fun c => " \t\n\x0b\x0c\r".toList.contains c
  | "blank" => some fun c => c == ' ' || c == '\t'
  | "punct" => some fun c => '!' ≤ c && c ≤ '~' && !c.isAlphanum
  | "print" => some fun c => ' ' ≤ c && c ≤ '~'
  | "graph" => some fun c => '!' ≤ c && c ≤ '~'
  | "cntrl" => some fun c => c < ' ' || c == '\x7f'
  | "xdigit" => some fun c =>
      c.isDigit || ('a' ≤ c && c ≤ 'f') || ('A' ≤ c && c ≤ 'F')
  | _ => none

/-- The class that a pattern behind an opening bracket names, and what follows its name. -/
def readClass? (pattern : Pattern) : Option ((Char → Bool) × Pattern) :=
  match pattern with
  | (':', false) :: rest =>
      match rest.dropWhile fun (c, _) => c.isAlpha with
      | (':', false) :: (']', false) :: after =>
          (classOf? ((rest.takeWhile fun (c, _) => c.isAlpha).map (·.1))).map (·, after)
      | _ => none
  | _ => none

/-- Whether the set at the start of a pattern has the character, and what follows the bracket that
    closes it. A closing bracket in front is one of the set. Fuel bounds the number of members. -/
def readSet? (d : Char) : Nat → Bool → Pattern → Option (Bool × Pattern)
  | 0, _, _ => none
  | fuel + 1, isFirst, pattern =>
      let goOn (hasIt : Bool) (rest : Pattern) : Option (Bool × Pattern) :=
        (readSet? d fuel false rest).map fun (found, rest) => (hasIt || found, rest)
      match pattern with
      | [] => none
      | (c, isQuoted) :: rest =>
          if c == ']' && !isQuoted && !isFirst then some (false, rest)
          else
            match if c == '[' && !isQuoted then readClass? rest else none with
            | some (test, rest) => goOn (test d) rest
            | none =>
                match rest with
                | ('-', false) :: (last, isLastQuoted) :: more =>
                    if last == ']' && !isLastQuoted then goOn (c == d) rest
                    else goOn (c ≤ d && d ≤ last) more
                | _ => goOn (c == d) rest

/-- Whether the set at the start of a pattern, behind its opening bracket, has the character, and
    what follows the set. An exclamation mark in front turns the set around. -/
def readBracket? (d : Char) (pattern : Pattern) : Option (Bool × Pattern) :=
  match pattern with
  | ('!', false) :: rest =>
      (readSet? d (rest.length + 1) true rest).map fun (found, rest) => (!found, rest)
  | pattern => readSet? d (pattern.length + 1) true pattern

/-- Whether the text matches the pattern as a whole. Fuel bounds the characters of the pattern. -/
def matchUpTo : Nat → Pattern → Text → Bool
  | 0, _, _ => false
  | _ + 1, [], text => text.isEmpty
  | fuel + 1, (c, isQuoted) :: pattern, text =>
      if c == '*' && !isQuoted then
        (List.range (text.length + 1)).any fun n => matchUpTo fuel pattern (text.drop n)
      else
        match text with
        | [] => false
        | d :: text =>
            let literally := c == d && matchUpTo fuel pattern text
            if isQuoted then literally
            else if c == '?' then matchUpTo fuel pattern text
            else if c == '[' then
              match readBracket? d pattern with
              | some (isIn, rest) => isIn && matchUpTo fuel rest text
              | none => literally
            else literally

/-- Whether the text matches the pattern as a whole. -/
def Pattern.isMatch (pattern : Pattern) (text : Text) : Bool :=
  matchUpTo (pattern.length + 1) pattern text

/-- Whether a pattern has a character that stands for others. -/
def Pattern.isWild (pattern : Pattern) : Bool :=
  pattern.any fun (c, isQuoted) => !isQuoted && (c == '*' || c == '?' || c == '[')

/-- A text without the part at one of its ends that matches the pattern, the shortest or the longest
    such part. -/
def Pattern.cut (pattern : Pattern) (isAtStart isLongest : Bool) (text : Text) : Text :=
  let sizes := List.range (text.length + 1)
  let sizes := if isLongest then sizes.reverse else sizes
  if isAtStart then
    match sizes.find? fun n => pattern.isMatch (text.take n) with
    | some n => text.drop n
    | none => text
  else
    match sizes.find? fun n => pattern.isMatch (text.drop (text.length - n)) with
    | some n => text.take (text.length - n)
    | none => text

end FfiBindings.Program.Script
