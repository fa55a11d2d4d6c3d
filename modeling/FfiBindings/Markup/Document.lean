import FfiBindings.Markup.Meaning

/-!
# Documents

The events of the first document in a stream, ready to be read at any position. Each reference is
tied to the event that bears its anchor. A fault in the text ends the events early; what comes
before it can still be read.
-/

namespace FfiBindings.Markup

/-- Why the events of a document end early. -/
inductive Fault where
  | malformed (complaint : Complaint)
  /-- A reference to an anchor that no earlier node bears. -/
  | unknownAnchor (mark : Mark)
  deriving Repr, DecidableEq

/-- The fault in words. -/
def Fault.message : Fault → Text
  | .malformed complaint => complaint.message
  | .unknownAnchor mark =>
      "unknown anchor" ++ (if mark.isOrigin then [] else " at " ++ mark.message : Text)

/-- A part of a document. -/
inductive Part where
  /-- The whole of an empty stream. -/
  | nothing
  /-- A reference to an anchored node by the number of its anchor. -/
  | reference (anchor : Nat)
  | scalar (tag : Option Text) (value : Text) (style : ScalarStyle)
  | sequenceStart
  | sequenceEnd
  | mappingStart
  | mappingEnd
  deriving Repr, DecidableEq

/-- The parts of a document with the positions where they start, and what ended them early. -/
structure Document where
  parts : List (Part × Mark)
  /-- For each anchor number the index of the part it belongs to, the latest first. -/
  anchors : List (Nat × Nat)
  fault : Option Fault
  /-- Whether the stream goes on after the document. -/
  hasSuccessor : Bool
  deriving Repr, DecidableEq

namespace Document

/-- A document while it is gathered, with the numbers of the anchor names met so far. -/
structure Gathering where
  parts : List (Part × Mark)
  names : List (Text × Nat)
  anchors : List (Nat × Nat)
  deriving Repr, DecidableEq

/-- Give an anchor name a number and tie it to the part that comes next. The number is that of names
    so far, so a name that is used again passes its new number on to the next new name. -/
def Gathering.anchor (gathering : Gathering) : Option Text → Gathering
  | none => gathering
  | some name =>
      let number := gathering.names.length
      { gathering with
        names := (name, number) :: gathering.names.filter (·.1 != name)
        anchors := (number, gathering.parts.length) :: gathering.anchors }

/-- Add a part at the end. -/
def Gathering.add (gathering : Gathering) (part : Part) (mark : Mark) : Gathering :=
  { gathering with parts := gathering.parts ++ [(part, mark)] }

/-- Gather the first document from the events of a stream. -/
def gather (complaint : Option Complaint) (gathering : Gathering) :
    List PlacedEvent → Document
  | [] => ⟨gathering.parts, gathering.anchors, complaint.map .malformed, false⟩
  | (event, mark) :: rest =>
      let next (name : Option Text) (part : Part) : Document :=
        gather complaint ((gathering.anchor name).add part mark) rest
      match event with
      | .documentStart => gather complaint gathering rest
      | .documentEnd =>
          ⟨gathering.parts, gathering.anchors, none,
            (rest.head?.map (·.1)) != some .streamEnd⟩
      | .streamEnd =>
          let parts := if gathering.parts.isEmpty then [(.nothing, mark)] else gathering.parts
          ⟨parts, gathering.anchors, none, false⟩
      | .alias name =>
          match gathering.names.lookup name with
          | some number => next none (.reference number)
          | none => ⟨gathering.parts, gathering.anchors, some (.unknownAnchor mark), false⟩
      | .scalar anchor tag value style => next anchor (.scalar tag value style)
      | .sequenceStart anchor => next anchor .sequenceStart
      | .sequenceEnd => next none .sequenceEnd
      | .mappingStart anchor => next anchor .mappingStart
      | .mappingEnd => next none .mappingEnd

/-- The first document of a text. -/
def ofText (text : Text) : Document :=
  let (events, complaint) := events text
  gather complaint ⟨[], [], []⟩ events

/-- The part at an index, or the part that it refers to. -/
def resolve? (document : Document) (index : Nat) : Option (Nat × Part × Mark) := do
  let (part, mark) ← document.parts[index]?
  match part with
  | .reference number =>
      let target ← document.anchors.lookup number
      let (part, mark) ← document.parts[target]?
      return (target, part, mark)
  | part => return (index, part, mark)

/-- The index after the node at an index, however deep it nests. Fuel bounds its parts. -/
def skipNested (document : Document) : Nat → Nat → Nat → Option Nat
  | 0, _, _ => none
  | fuel + 1, depth, index => do
      let (part, _) ← document.parts[index]?
      match part with
      | .sequenceStart | .mappingStart => document.skipNested fuel (depth + 1) (index + 1)
      | .sequenceEnd | .mappingEnd =>
          if depth ≤ 1 then some (index + 1)
          else document.skipNested fuel (depth - 1) (index + 1)
      | _ =>
          if depth == 0 then some (index + 1) else document.skipNested fuel depth (index + 1)

/-- The index after the node at an index, unless the parts end within it. -/
def skip? (document : Document) (index : Nat) : Option Nat :=
  document.skipNested (document.parts.length + 1) 0 index

end Document

end FfiBindings.Markup
