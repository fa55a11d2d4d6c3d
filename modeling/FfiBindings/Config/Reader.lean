import FfiBindings.Config.Basic
import FfiBindings.Markup.Document

/-!
# Reading a project file

A project file is one document with a mapping. Fields may come in any order, unknown ones are passed
over, a repeated one is refused, and so is a missing one unless it has a default. A text may be
written as any scalar, whatever that would mean elsewhere.
-/

namespace FfiBindings.Config

open Markup (Document Part Mark Meaning CoreType)

/-- What a place in the document should hold. -/
inductive Expected where
  | config
  | places
  | text
  | path
  | fieldName
  deriving Repr, DecidableEq

/-- The expectation in words. -/
def Expected.message : Expected → Text
  | .config => "struct ProjectConfig"
  | .places => "struct OutputConfig"
  | .text => "a string"
  | .path => "path string"
  | .fieldName => "field identifier"

/-- What a place holds instead. -/
inductive Found where
  | value (meaning : Meaning)
  | sequence
  | mapping
  deriving Repr, DecidableEq

/-- What was found, in words. -/
def Found.message : Found → Text
  | .value meaning => meaning.describe
  | .sequence => "sequence"
  | .mapping => "map"

/-- What is wrong with a value. -/
inductive Misfit where
  | wrongType (found : Found) (expected : Expected)
  /-- A tag asks for a core type that the text does not have. -/
  | wrongTag (value : Text) (type : CoreType)
  | duplicateField (name : Text)
  | missingField (name : Text)
  deriving Repr, DecidableEq

/-- The misfit in words. -/
def Misfit.message : Misfit → Text
  | .wrongType found expected =>
      "invalid type: " ++ found.message ++ ", expected " ++ expected.message
  | .wrongTag value type =>
      "invalid value: string " ++ Quoted.text value ++ ", expected " ++ type.describe
  | .duplicateField name => "duplicate field \x60" ++ name ++ "\x60"
  | .missingField name => "missing field \x60" ++ name ++ "\x60"

/-- Where in the configuration a value belongs: the names of the fields around it, unknown where a
    name is not written out. -/
abbrev FieldPath := List (Option Text)

/-- Why a document is no configuration. -/
inductive ReadError where
  | misfit (misfit : Misfit) (path : FieldPath) (mark : Mark)
  | document (fault : Markup.Fault)
  | unfinished
  | severalDocuments
  deriving Repr, DecidableEq

/-- The error in words. The path of fields and the place are mentioned unless they are those of the
    whole document. -/
def ReadError.message : ReadError → Text
  | .misfit fault path mark =>
      let fields : Text :=
        if path.isEmpty then []
        else Text.join "." (path.map (·.getD "?")) ++ ": "
      let place : Text := if mark.isOrigin then [] else " at " ++ mark.message
      fields ++ fault.message ++ place
  | .document fault => fault.message
  | .unfinished => "EOF while parsing a value"
  | .severalDocuments =>
      "deserializing from YAML containing more than one document is not supported"

/-- The error about parts that end too early. -/
def endError (document : Document) : ReadError :=
  match document.fault with
  | some fault => .document fault
  | none => .unfinished

/-- The part at an index with references followed. -/
def partAt (document : Document) (index : Nat) : Except ReadError (Nat × Part × Mark) :=
  match document.resolve? index with
  | some found => .ok found
  | none => .error (endError document)

/-- The error about a part that is not what it should be. -/
def wrongPart (part : Part) (expected : Expected) (path : FieldPath) (mark : Mark) : ReadError :=
  match part with
  | .scalar tag value style =>
      match Markup.scalarMeaning tag value style with
      | .ok meaning => .misfit (.wrongType (.value meaning) expected) path mark
      | .error type => .misfit (.wrongTag value type) path mark
  | .sequenceStart => .misfit (.wrongType .sequence expected) path mark
  | .mappingStart => .misfit (.wrongType .mapping expected) path mark
  | _ => .unfinished

/-- Read a text, and give the index of the part after it too. Any scalar will do. -/
def readText (document : Document) (expected : Expected) (path : FieldPath) (index : Nat) :
    Except ReadError (Text × Nat) := do
  let (_, part, mark) ← partAt document index
  match part with
  | .scalar _ value _ => return (value, index + 1)
  | part => .error (wrongPart part expected path mark)

/-- Read a path. -/
def readPath (document : Document) (path : FieldPath) (index : Nat) : Except ReadError (Path × Nat) := do
  let (text, after) ← readText document .path path index
  return (.ofText text, after)

/-- Pass over a value of any kind. -/
def skipValue (document : Document) (index : Nat) : Except ReadError Nat :=
  match document.skip? index with
  | some after => .ok after
  | none => .error (endError document)

/-- The name of the field whose key stands at an index, as far as it is written there. -/
def writtenName? (document : Document) (index : Nat) : Option Text :=
  match document.parts[index]? with
  | some (.scalar _ value _, _) => some value
  | _ => none

/-- Read the fields of a mapping one after another up to its end. What a field does to the fields
    read so far is up to `readField`, which gets its name, its path and the index of its value. Fuel
    bounds the number of fields. -/
def readFields {σ : Type} (document : Document) (path : FieldPath)
    (readField : σ → Text → FieldPath → Nat → Except ReadError (σ × Nat)) :
    Nat → σ → Nat → Except ReadError (σ × Nat)
  | 0, fields, index => .ok (fields, index)
  | fuel + 1, fields, index =>
      match document.parts[index]? with
      | none => .error (endError document)
      | some (.mappingEnd, _) => .ok (fields, index + 1)
      | some _ => do
          let (name, valueIndex) ← readText document .fieldName path index
          let (fields, after) ←
            readField fields name (path ++ [writtenName? document index]) valueIndex
          readFields document path readField fuel fields after

/-- Read a mapping with known fields. An empty plain scalar counts as a mapping without fields. The
    result is built from the fields by `finish`. -/
def readMapping {σ α : Type} (document : Document) (expected : Expected) (path : FieldPath)
    (start : σ) (readField : Mark → σ → Text → FieldPath → Nat → Except ReadError (σ × Nat))
    (finish : Mark → σ → Except ReadError α) (index : Nat) : Except ReadError (α × Nat) := do
  let (target, part, mark) ← partAt document index
  match part with
  | .mappingStart =>
      let (fields, after) ←
        readFields document path (readField mark) (document.parts.length + 1) start (target + 1)
      let value ← finish mark fields
      return (value, if target == index then after else index + 1)
  | .nothing => return (← finish mark start, index + 1)
  | .scalar tag value style =>
      if value.isEmpty && style == .plain then return (← finish mark start, index + 1)
      else .error (wrongPart (.scalar tag value style) expected path mark)
  | part => .error (wrongPart part expected path mark)

/-- Read a field that may occur once. -/
def readOnce {α : Type} (field : Option α) (name : Text) (owner : FieldPath) (mark : Mark)
    (read : Except ReadError (α × Nat)) : Except ReadError (Option α × Nat) :=
  match field with
  | some _ => .error (.misfit (.duplicateField name) owner mark)
  | none => read.map fun (value, after) => (some value, after)

/-- The fields of the output places that were read. -/
structure PlaceFields where
  directory : Option Path
  libraryDirectory : Option Path
  deriving Repr, DecidableEq

/-- Read one field of the output places. -/
def readPlaceField (document : Document) (owner : FieldPath) (mark : Mark) (fields : PlaceFields)
    (name : Text) (path : FieldPath) (index : Nat) : Except ReadError (PlaceFields × Nat) :=
  if name == ("dir" : Text) then do
    let (directory, after) ←
      readOnce fields.directory name owner mark (readPath document path index)
    return ({ fields with directory }, after)
  else if name == ("lib_dir" : Text) then do
    let (libraryDirectory, after) ←
      readOnce fields.libraryDirectory name owner mark (readPath document path index)
    return ({ fields with libraryDirectory }, after)
  else do return (fields, ← skipValue document index)

/-- Read the output places. Each has a default. -/
def readPlaces (document : Document) (path : FieldPath) (index : Nat) : Except ReadError (OutputPlaces × Nat) :=
  readMapping document .places path (⟨none, none⟩ : PlaceFields) (readPlaceField document path)
    (fun _ fields =>
      .ok ⟨fields.directory.getD OutputPlaces.default.directory,
        fields.libraryDirectory.getD OutputPlaces.default.libraryDirectory⟩)
    index

/-- The fields of a configuration that were read. -/
structure Fields where
  service : Option Text
  source : Option Path
  output : Option OutputPlaces
  deriving Repr, DecidableEq

/-- Read one field of a configuration. -/
def readField (document : Document) (mark : Mark) (fields : Fields) (name : Text)
    (path : FieldPath) (index : Nat) : Except ReadError (Fields × Nat) :=
  if name == ("service" : Text) then do
    let (service, after) ←
      readOnce fields.service name [] mark (readText document .text path index)
    return ({ fields with service }, after)
  else if name == ("source" : Text) then do
    let (source, after) ← readOnce fields.source name [] mark (readPath document path index)
    return ({ fields with source }, after)
  else if name == ("output" : Text) then do
    let (output, after) ← readOnce fields.output name [] mark (readPlaces document path index)
    return ({ fields with output }, after)
  else do return (fields, ← skipValue document index)

/-- A configuration from its fields. Only the output places may be missing. -/
def ofFields (mark : Mark) (fields : Fields) : Except ReadError Config :=
  match fields.service, fields.source with
  | none, _ => .error (.misfit (.missingField "service") [] mark)
  | _, none => .error (.misfit (.missingField "source") [] mark)
  | some service, some source => .ok ⟨service, source, fields.output.getD .default⟩

/-- Read a configuration from the text of a project file. What is wrong with the values comes before
    what is wrong with the text behind them, and a second document comes last. -/
def parse (text : Text) : Except ReadError Config := do
  let document := Document.ofText text
  let (config, _) ←
    readMapping document .config [] (⟨none, none, none⟩ : Fields) (readField document) ofFields 0
  match document.fault with
  | some fault => .error (.document fault)
  | none => if document.hasSuccessor then .error .severalDocuments else .ok config

end FfiBindings.Config
