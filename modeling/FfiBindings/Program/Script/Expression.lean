import FfiBindings.Program.Script.Word
import FfiBindings.Program.Script.Number

/-!
# Expressions of shell scripts

An expression comes to a whole number of 64 bits. It is read as a tree by the ranks of its
operators; what its variables stand for is up to the script.
-/

namespace FfiBindings.Program.Script

/-- An expression. -/
inductive Expression where
  | number (value : Int)
  | variable (name : Text)
  | unary (operator : String) (operand : Expression)
  | binary (operator : String) (left right : Expression)
  | conditional (condition yes no : Expression)
  /-- The variable gets the value, or what an operator makes of its own value and that. -/
  | assignment (name : Text) (operator : Option String) (value : Expression)
  deriving Repr, DecidableEq

/-- What an expression is made of. -/
inductive ExpressionToken where
  | number (value : Int)
  | name (name : Text)
  | mark (mark : String)
  deriving Repr, DecidableEq

/-- The operators, longer ones before those that they start with. -/
def expressionMarks : List String :=
  ["<<=", ">>=", "+=", "-=", "*=", "/=", "%=", "&=", "^=", "|=", "<<", ">>", "<=", ">=", "==",
    "!=", "&&", "||", "=", "<", ">", "+", "-", "*", "/", "%", "&", "^", "|", "!", "~", "?", ":",
    "(", ")"]

/-- The token that a text starts with, and the rest of the text. A character that belongs to no
    token is a mark that no expression has. -/
def readExpressionToken (c : Char) (rest : Text) : ExpressionToken × Text :=
  if isNameStart c then
    (.name (c :: rest.takeWhile isNameChar), rest.dropWhile isNameChar)
  else
    match if c.isDigit then readNatural? true (c :: rest) else none with
    | some (value, rest) => (.number (min largest value), rest)
    | none =>
        match expressionMarks.find? fun mark => mark.toList.isPrefixOf (c :: rest) with
        | some mark => (.mark mark, rest.drop (mark.length - 1))
        | none => (.mark (String.ofList [c]), rest)

/-- The tokens of an expression. Fuel bounds their number. -/
def expressionTokens : Nat → Text → List ExpressionToken
  | 0, _ => []
  | fuel + 1, text =>
      match text.dropWhile isSpace with
      | [] => []
      | c :: rest =>
          let (token, rest) := readExpressionToken c rest
          token :: expressionTokens fuel rest

/-- Something that is read from the tokens of an expression, or what is missing there. -/
abbrev ExpressionReading := StateT (List ExpressionToken) (Except String)

/-- The rank of an operator between two operands; a higher rank binds closer. -/
def rankOf? : String → Option Nat
  | "||" => some 1
  | "&&" => some 2
  | "|" => some 3
  | "^" => some 4
  | "&" => some 5
  | "==" => some 6
  | "!=" => some 6
  | "<" => some 7
  | "<=" => some 7
  | ">" => some 7
  | ">=" => some 7
  | "<<" => some 8
  | ">>" => some 8
  | "+" => some 9
  | "-" => some 9
  | "*" => some 10
  | "/" => some 10
  | "%" => some 10
  | _ => none

/-- The operator that is part of an assignment: none for a plain one. -/
def assignmentOf? : String → Option (Option String)
  | "=" => some none
  | "+=" => some (some "+")
  | "-=" => some (some "-")
  | "*=" => some (some "*")
  | "/=" => some (some "/")
  | "%=" => some (some "%")
  | "<<=" => some (some "<<")
  | ">>=" => some (some ">>")
  | "&=" => some (some "&")
  | "^=" => some (some "^")
  | "|=" => some (some "|")
  | _ => none

/-- Pass over a mark, if it comes next. -/
def takeMark (mark : String) : ExpressionReading Bool := do
  match ← get with
  | .mark found :: rest =>
      if found == mark then
        set rest
        return true
      return false
  | _ => return false

mutual

/-- Read an expression. Fuel bounds the depth of all that is read. -/
def readExpression : Nat → ExpressionReading Expression
  | 0 => throw "expecting primary"
  | fuel + 1 => do
      match ← get with
      | .name name :: .mark mark :: rest =>
          match assignmentOf? mark with
          | some operator =>
              set rest
              return .assignment name operator (← readExpression fuel)
          | none => readConditional fuel
      | _ => readConditional fuel

/-- Read an expression without an assignment in front. -/
def readConditional : Nat → ExpressionReading Expression
  | 0 => throw "expecting primary"
  | fuel + 1 => do
      let condition ← readOperation fuel 1
      if ← takeMark "?" then
        let yes ← readExpression fuel
        if ← takeMark ":" then return .conditional condition yes (← readConditional fuel)
        throw "expecting ':'"
      return condition

/-- Read operands with operators of at least a rank between them. -/
def readOperation : Nat → Nat → ExpressionReading Expression
  | 0, _ => throw "expecting primary"
  | fuel + 1, rank => do readOperators fuel rank (← readOperand fuel)

/-- Read operators of at least a rank behind an operand. -/
def readOperators : Nat → Nat → Expression → ExpressionReading Expression
  | 0, _, _ => throw "expecting primary"
  | fuel + 1, rank, left => do
      match ← get with
      | .mark mark :: rest =>
          match (rankOf? mark).filter (rank ≤ ·) with
          | some found =>
              set rest
              let right ← readOperation fuel (found + 1)
              readOperators fuel rank (.binary mark left right)
          | none => return left
      | _ => return left

/-- Read an operand. -/
def readOperand : Nat → ExpressionReading Expression
  | 0 => throw "expecting primary"
  | fuel + 1 => do
      match ← get with
      | .number value :: rest =>
          set rest
          return .number value
      | .name name :: rest =>
          set rest
          return .variable name
      | .mark mark :: rest =>
          if mark == "(" then
            set rest
            let inner ← readExpression fuel
            if ← takeMark ")" then return inner
            throw "expecting ')'"
          if ["+", "-", "!", "~"].contains mark then
            set rest
            return .unary mark (← readOperand fuel)
          throw "expecting primary"
      | [] => throw "expecting primary"

end

/-- The expression that a text spells, or what is missing in it. -/
def parseExpression (text : Text) : Except String Expression := do
  let tokens := expressionTokens text.length text
  let (expression, rest) ← (readExpression (8 * tokens.length + 8)).run tokens
  if rest.isEmpty then return expression
  throw "expecting EOF"

/-- The number that stands for whether something holds. -/
def truth (holds : Bool) : Int := if holds then 1 else 0

/-- What an operator makes of one number. -/
def applyUnary (operator : String) (n : Int) : Int :=
  match operator with
  | "-" => wrap (-n)
  | "!" => truth (n == 0)
  | "~" => -n - 1
  | _ => n

/-- What an operator makes of two numbers. Division goes toward zero, and nothing can be divided by
    zero. -/
def applyBinary? (operator : String) (a b : Int) : Option Int :=
  match operator with
  | "||" => some (truth (a != 0 || b != 0))
  | "&&" => some (truth (a != 0 && b != 0))
  | "|" => some (wrap (bitsOf a ||| bitsOf b))
  | "^" => some (wrap (bitsOf a ^^^ bitsOf b))
  | "&" => some (wrap (bitsOf a &&& bitsOf b))
  | "==" => some (truth (a == b))
  | "!=" => some (truth (a != b))
  | "<" => some (truth (a < b))
  | "<=" => some (truth (a ≤ b))
  | ">" => some (truth (b < a))
  | ">=" => some (truth (b ≤ a))
  | "<<" => some (wrap (a * Nat.pow 2 (bitsOf b % 64)))
  | ">>" => some (a.fdiv (Nat.pow 2 (bitsOf b % 64)))
  | "+" => some (wrap (a + b))
  | "-" => some (wrap (a - b))
  | "*" => some (wrap (a * b))
  | "/" => if b == 0 then none else some (wrap (a.tdiv b))
  | "%" => if b == 0 then none else some (a.tmod b)
  | _ => none

end FfiBindings.Program.Script
