import FfiBindings.Text.Blank

/-!
# From Go types to PHP types

Two ordered tables over one vocabulary: the types of Go, the aliases in the header that the Go
compiler writes, and the spellings of C. The first rule that fits decides, so texts and character
pointers come before the general rules for pointers and arrays. The documented type exists for
every token, the type hint only for known ones.
-/

namespace FfiBindings.Service

/-- The PHP types that occur in a service class. -/
inductive ValueType where
  | string
  | int
  | float
  | bool
  | array
  | void
  | mixed
  deriving Repr, DecidableEq

/-- The name of the type in PHP. -/
def ValueType.name : ValueType → Text
  | .string => "string"
  | .int => "int"
  | .float => "float"
  | .bool => "bool"
  | .array => "array"
  | .void => "void"
  | .mixed => "mixed"

/-- A test on a trimmed type token, and the type it gives. -/
structure TypeRule where
  fits : Text → Bool
  type : ValueType

/-- Whether the token is one of the spellings. -/
def isOneOf (spellings : List Text) (token : Text) : Bool := spellings.contains token

def stringSpellings : List Text := ["string", "GoString"].map String.toList

def integerSpellings : List Text := List.map String.toList
  ["int", "int8", "int16", "int32", "int64", "uint", "uint8", "uint16", "uint32", "uint64",
    "char", "short", "long", "long long", "unsigned char", "unsigned short", "unsigned int",
    "unsigned long", "size_t", "ssize_t",
    "GoInt", "GoInt8", "GoInt16", "GoInt32", "GoInt64", "GoUint", "GoUint8", "GoUint16",
    "GoUint32", "GoUint64", "C.int", "C.long", "C.short", "C.char"]

def floatSpellings : List Text := List.map String.toList
  ["float", "float32", "float64", "double", "GoFloat32", "GoFloat64", "C.float", "C.double"]

def boolSpellings : List Text := ["bool", "GoBool", "_Bool"].map String.toList

def voidSpellings : List Text := ["void", ""].map String.toList

/-- A pointer to characters, which PHP sees as a string. -/
def isCharPointer (token : Text) : Bool :=
  Text.hasFragment "*C.char" token || isOneOf ["char*"] token

/-- A pointer to anything else. -/
def isOtherPointer (token : Text) : Bool :=
  List.isPrefixOf ("*" : Text) token && !Text.hasFragment "char" token

/-- Strings, maps and slices: the rules that both tables try first. -/
def leadingRules : List TypeRule :=
  [⟨isCharPointer, .string⟩, ⟨isOneOf stringSpellings, .string⟩,
    ⟨Text.hasFragment "map[", .array⟩, ⟨Text.hasFragment "GoMap", .array⟩,
    ⟨Text.hasFragment "GoSlice", .array⟩, ⟨Text.hasFragment "[]", .array⟩]

/-- Numbers and truth values: the exact spellings that both tables share. -/
def scalarRules : List TypeRule :=
  [⟨isOneOf integerSpellings, .int⟩, ⟨isOneOf floatSpellings, .float⟩,
    ⟨isOneOf boolSpellings, .bool⟩]

/-- The rules for documented types. -/
def docRules : List TypeRule := leadingRules ++ scalarRules ++ [⟨isOneOf voidSpellings, .void⟩]

/-- The rules for type hints. -/
def hintRules : List TypeRule := leadingRules ++ [⟨isOtherPointer, .array⟩] ++ scalarRules

/-- The type of the first rule that fits the trimmed token. -/
def firstFit (rules : List TypeRule) (token : Text) : Option ValueType :=
  (rules.find? (·.fits (Text.trim token))).map (·.type)

/-- The documented type of a token: `mixed` where no rule fits. -/
def docType (token : Text) : ValueType := (firstFit docRules token).getD .mixed

/-- The type hint of a token, absent where the position stays untyped. -/
def hintType (token : Text) : Option ValueType := firstFit hintRules token

end FfiBindings.Service
