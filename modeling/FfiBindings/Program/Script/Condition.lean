import FfiBindings.FileSystem.Access
import FfiBindings.Program.Script.Number

/-!
# Conditions of shell scripts

A condition is a row of words that compares texts and numbers and asks for files. Its words are told
apart by what stands beside them, so that a text may look like an operator. Reading goes word by
word; the words that are left always start with the last one that was used.
-/

namespace FfiBindings.Program.Script

/-- A word of a condition as an operator. -/
inductive Operator where
  | unary
  | binary
  | conjunction
  | disjunction
  | negation
  | opening
  | closing
  deriving Repr, DecidableEq

/-- The operators that compare. -/
def comparisons : List String :=
  ["=", "!=", "<", ">", "-eq", "-ne", "-gt", "-ge", "-lt", "-le", "-nt", "-ot", "-ef"]

/-- The operators that ask for something. -/
def questions : List String :=
  ["-b", "-c", "-d", "-e", "-f", "-g", "-h", "-k", "-n", "-p", "-r", "-s", "-t", "-u", "-w", "-x",
    "-z", "-G", "-L", "-O", "-S"]

/-- The operator that a word is by its look. -/
def operatorOf? (word : Text) : Option Operator :=
  match String.ofList word with
  | "-a" => some .conjunction
  | "-o" => some .disjunction
  | "!" => some .negation
  | "(" => some .opening
  | ")" => some .closing
  | word =>
      if comparisons.contains word then some .binary
      else if questions.contains word then some .unary
      else none

/-- Whether the first word is a text although it looks like a question: nothing follows it, or what
    follows is a comparison with something behind it. -/
def isOperand (words : List Text) : Bool :=
  match words with
  | _ :: next :: _ :: _ => operatorOf? next == some .binary
  | [_, _] => false
  | _ => true

/-- The operator that the first of some words is where it stands. -/
def operatorAt? (words : List Text) : Option Operator :=
  match words with
  | [] => none
  | word :: rest =>
      (operatorOf? word).filter fun operator =>
        !(operator == .unary && isOperand words) && !(operator == .opening && rest.isEmpty)

/-- The number that a word of a condition stands for. -/
def conditionNumber (word : Text) : Except Text Int :=
  match readInteger? false word with
  | some (value, rest) =>
      if rest.all isSpace && smallest ≤ value && value ≤ largest then .ok value
      else .error ("Illegal number: " ++ word)
  | none => .error ("Illegal number: " ++ word)

/-- Whether two words compare as an operator says. -/
def compareWords (left operator right : Text) : Except Text Bool :=
  let numbers (test : Int → Int → Bool) : Except Text Bool := do
    return test (← conditionNumber left) (← conditionNumber right)
  match String.ofList operator with
  | "=" => .ok (left == right)
  | "!=" => .ok (left != right)
  | "<" => .ok (left < right)
  | ">" => .ok (right < left)
  | "-eq" => numbers (· == ·)
  | "-ne" => numbers (· != ·)
  | "-gt" => numbers fun a b => b < a
  | "-ge" => numbers fun a b => b ≤ a
  | "-lt" => numbers fun a b => a < b
  | "-le" => numbers fun a b => a ≤ b
  | _ => .ok false

/-- Whether a word is as an operator asks, with what its path leads to. -/
def answer (entryAt? : Text → Option Entry) (operator word : Text) : Bool :=
  let entry? := entryAt? word
  match String.ofList operator with
  | "-n" => !word.isEmpty
  | "-z" => word.isEmpty
  | "-e" => entry?.isSome
  | "-r" => entry?.isSome
  | "-w" => entry?.isSome
  | "-O" => entry?.isSome
  | "-G" => entry?.isSome
  | "-d" => entry? == some .directory
  | "-f" =>
      match entry? with
      | some (.file ..) => true
      | _ => false
  | "-x" =>
      match entry? with
      | some (.file _ isExecutable) => isExecutable
      | some .directory => true
      | none => false
  | "-s" =>
      match entry? with
      | some (.file content _) => !content.isEmpty
      | some .directory => true
      | none => false
  | _ => false

/-- What has been found of some words, and the words that are left, the last used one included. -/
abbrev Judgement := Except Text (Bool × List Text)

mutual

/-- Judge alternatives. Fuel bounds the words. -/
def judgeAny (entryAt? : Text → Option Entry) : Nat → List Text → Judgement
  | 0, words => .ok (false, words)
  | fuel + 1, words => do
      let (holds, words) ← judgeAll entryAt? fuel words
      if operatorAt? words.tail == some .disjunction then
        let (others, words) ← judgeAny entryAt? fuel (words.drop 2)
        return (holds || others, words)
      return (holds, words)

/-- Judge what has to hold together. -/
def judgeAll (entryAt? : Text → Option Entry) : Nat → List Text → Judgement
  | 0, words => .ok (false, words)
  | fuel + 1, words => do
      let (holds, words) ← judgeNegation entryAt? fuel words
      if operatorAt? words.tail == some .conjunction then
        let (others, words) ← judgeAll entryAt? fuel (words.drop 2)
        return (holds && others, words)
      return (holds, words)

/-- Judge what may be turned around. -/
def judgeNegation (entryAt? : Text → Option Entry) : Nat → List Text → Judgement
  | 0, words => .ok (false, words)
  | fuel + 1, words =>
      if operatorAt? words == some .negation then
        if words.tail.isEmpty then .ok (true, words)
        else do
          let (holds, words) ← judgeNegation entryAt? fuel words.tail
          return (!holds, words)
      else judgeOne entryAt? fuel words

/-- Judge one thing. -/
def judgeOne (entryAt? : Text → Option Entry) : Nat → List Text → Judgement
  | 0, words => .ok (false, words)
  | fuel + 1, words =>
      match words, operatorAt? words with
      | [], _ => .ok (false, [])
      | _ :: rest, some .opening =>
          if operatorAt? rest == some .closing then .ok (false, rest)
          else do
            let (holds, words) ← judgeAny entryAt? fuel rest
            if operatorAt? words.tail == some .closing then return (holds, words.tail)
            throw "closing paren expected".toList
      | operator :: rest, some .unary =>
          match rest with
          | [] => .error (operator ++ ": argument expected")
          | word :: _ => .ok (answer entryAt? operator word, rest)
      | word :: rest, _ =>
          if operatorAt? rest == some .binary then
            match rest with
            | operator :: right :: more => do
                return (← compareWords word operator right, right :: more)
            | operator :: _ => .error (operator ++ ": argument expected")
            | [] => .ok (!word.isEmpty, words)
          else .ok (!word.isEmpty, words)

end

/-- Judge a condition, which must leave no words. -/
def judge (entryAt? : Text → Option Entry) (words : List Text) : Except Text Bool := do
  let (holds, rest) ← judgeAny entryAt? (8 * words.length + 8) words
  match rest with
  | [] :: _ :: _ => throw "unexpected operator".toList
  | word :: _ :: _ => throw (word ++ ": unexpected operator")
  | _ => return holds

/-- Judge a comparison in which the first word is a text whatever it looks like. -/
def judgeComparison (left operator right : Text) : Except Text Bool :=
  compareWords left operator right

/-- Whether a condition holds. Few words are taken for what they must be: three for a comparison,
    three or four for a condition in brackets or turned around. Fuel bounds the words. -/
def holdsUpTo (entryAt? : Text → Option Entry) : Nat → List Text → Except Text Bool
  | 0, _ => .ok false
  | fuel + 1, words =>
      let isInBrackets := words.head? == some ['('] && words.getLast? == some [')']
      match words with
      | [] => .ok false
      | [left, operator, right] =>
          if operatorOf? operator == some .binary then judgeComparison left operator right
          else if isInBrackets then judge entryAt? [operator]
          else if left == ['!'] then do
            return !(← holdsUpTo entryAt? fuel [operator, right])
          else judge entryAt? words
      | [first, second, third, _] =>
          if isInBrackets then judge entryAt? [second, third]
          else if first == ['!'] then do
            return !(← holdsUpTo entryAt? fuel words.tail)
          else judge entryAt? words
      | words => judge entryAt? words

/-- Whether a condition holds. -/
def holds (entryAt? : Text → Option Entry) (words : List Text) : Except Text Bool :=
  holdsUpTo entryAt? (words.length + 1) words

end FfiBindings.Program.Script
