import FfiBindings.Markup.Token
import FfiBindings.Text.Utf8

/-!
# Directives, tags and anchors

The parts of a document that say something about a node or about the document as a whole. Tags and
tag directives are written with handles and addresses; an address may hold escaped octets.
-/

namespace FfiBindings.Markup

/-- The octet that is written at the cursor as a percent sign and two hexadecimal digits. -/
def escapedOctet? (cursor : Cursor) : Option Nat :=
  if cursor.peek 0 == some '%' then do
    let high ← (cursor.peek 1).bind Text.hexValue?
    let low ← (cursor.peek 2).bind Text.hexValue?
    return high * 16 + low
  else none

/-- Read the given number of escaped octets that continue a character. -/
def readTrailingOctets (activity : Activity) (start : Mark) :
    Nat → Bytes → Cursor → Except Complaint (Bytes × Cursor)
  | 0, octets, cursor => .ok (octets, cursor)
  | more + 1, octets, cursor =>
      match escapedOctet? cursor with
      | none => .error (.during activity start .noEscapedOctet cursor.mark)
      | some octet =>
          if octet / 64 == 2 then
            readTrailingOctets activity start more (octets ++ [UInt8.ofNat octet])
              (cursor.advance 3)
          else .error (.during activity start .badTrailingOctet cursor.mark)

/-- How many octets follow a leading one. -/
def trailingCount? (octet : Nat) : Option Nat :=
  if octet < 0x80 then some 0
  else if octet / 32 == 6 then some 1
  else if octet / 16 == 14 then some 2
  else if octet / 8 == 30 then some 3
  else none

/-- Read a character in escaped octets. -/
def readEscapedOctets (activity : Activity) (start : Mark) (cursor : Cursor) :
    Except Complaint (Bytes × Cursor) :=
  match escapedOctet? cursor with
  | none => .error (.during activity start .noEscapedOctet cursor.mark)
  | some octet =>
      match trailingCount? octet with
      | none => .error (.during activity start .badLeadingOctet cursor.mark)
      | some more =>
          readTrailingOctets activity start more [UInt8.ofNat octet] (cursor.advance 3)

/-- Whether a character can stand in an address. Commas and square brackets can only where the
    address stands alone. -/
def isAddressChar (isAlone : Bool) (c : Char) : Bool :=
  Text.isLabelChar c || (";/?:@&=+$.%!~*'()" : String).toList.contains c ||
    (isAlone && (c == ',' || c == '[' || c == ']'))

/-- Read an address. Fuel bounds the number of its characters. -/
def readAddress (isAlone : Bool) (activity : Activity) (start : Mark) :
    Nat → Bytes → Cursor → Except Complaint (Bytes × Cursor)
  | 0, address, cursor => .ok (address, cursor)
  | fuel + 1, address, cursor =>
      match cursor.peek 0 with
      | none => .ok (address, cursor)
      | some c =>
          if c == '%' then do
            let (octets, after) ← readEscapedOctets activity start cursor
            readAddress isAlone activity start fuel (address ++ octets) after
          else if isAddressChar isAlone c then
            readAddress isAlone activity start fuel (address ++ Utf8.encodeChar c)
              (cursor.advance 1)
          else .ok (address, cursor)

/-- Read an address that may not be empty. The handle before it belongs to it when it turned out
    not to be one, without its exclamation mark. -/
def readWholeAddress (isAlone : Bool) (activity : Activity) (start : Mark) (handle : Text)
    (cursor : Cursor) : Except Complaint (Text × Cursor) := do
  let (address, after) ←
    readAddress isAlone activity start (cursor.rest.length + 1) [] cursor
  if address.isEmpty && handle.isEmpty then
    .error (.during activity start .noAddress after.mark)
  else return (handle.drop 1 ++ Utf8.decodeLossy address, after)

/-- Read a tag handle: an exclamation mark, letters, and a second one if it is there. A directive
    needs the second one after letters. -/
def readHandle (isDirective : Bool) (start : Mark) (cursor : Cursor) :
    Except Complaint (Text × Cursor) :=
  if cursor.peek 0 != some '!' then
    .error (.during (if isDirective then .tagDirectiveHandle else .tag) start .noHandleStart
      cursor.mark)
  else
    let letters := (cursor.advance 1).takeWhile Text.isLabelChar
    let after := cursor.advance (1 + letters.length)
    if after.peek 0 == some '!' then .ok ('!' :: letters ++ ['!'], after.advance 1)
    else if isDirective && !letters.isEmpty then
      .error (.during .tagDirectiveName start .noHandleEnd after.mark)
    else .ok ('!' :: letters, after)

/-- Read the handle and the suffix of a tag. An address in angle brackets has no handle, and the
    tag of a lone exclamation mark is all suffix. -/
def readTagText (start : Mark) (cursor : Cursor) : Except Complaint (Text × Text × Cursor) := do
  if cursor.peek 1 == some '<' then
    let (address, after) ← readWholeAddress true .tagAddress start [] (cursor.advance 2)
    if after.peek 0 == some '>' then return ([], address, after.advance 1)
    .error (.during .tag start .noAddressEnd after.mark)
  else
    let (handle, after) ← readHandle false start cursor
    if 1 < handle.length && handle.getLast? == some '!' then
      let (suffix, after) ← readWholeAddress false .tagAddress start [] after
      return (handle, suffix, after)
    else
      let (suffix, after) ← readWholeAddress false .tagAddress start handle after
      if suffix.isEmpty then return ([], ['!'], after)
      return (['!'], suffix, after)

/-- Read a tag. Outside brackets white space or the end of the line has to follow it; inside, a
    comma may. -/
def readTag (inFlow : Bool) (cursor : Cursor) : Except Complaint (Token × Cursor) := do
  let start := cursor.mark
  let (handle, suffix, after) ← readTagText start cursor
  if endsWord (after.peek 0) || (inFlow && after.peek 0 == some ',') then
    return (⟨.tag handle suffix, start, after.mark⟩, after)
  .error (.during .tag start .noEndAfterTag after.mark)

/-- Whether a character, or the end of the document in its place, can follow an anchor. -/
def endsAnchor (c : Option Char) : Bool :=
  endsWord c || c.any fun c =>
    c == '?' || c == ':' || c == ',' || c == ']' || c == '\x7d' || c == '%' || c == '@' || c == '\x60'

/-- Read an anchor or, with the other mark, a reference to one. -/
def readAnchor (isAlias : Bool) (cursor : Cursor) : Except Complaint (Token × Cursor) :=
  let start := cursor.mark
  let name := (cursor.advance 1).takeWhile Text.isLabelChar
  let after := cursor.advance (1 + name.length)
  if name.isEmpty || !endsAnchor (after.peek 0) then
    .error (.during (if isAlias then .alias else .anchor) start .noAnchorName after.mark)
  else
    .ok (⟨if isAlias then .alias name else .anchor name, start, after.mark⟩, after)

/-- The number of digits from which a version number is refused. -/
def versionLimit : Nat := 9

/-- Read one part of a version number. -/
def readVersionPart (start : Mark) (cursor : Cursor) : Except Complaint (Nat × Cursor) :=
  let digits := cursor.takeWhile Char.isDigit
  if digits.length > versionLimit then
    .error (.during .versionDirective start .longVersion (cursor.advance versionLimit).mark)
  else if digits.isEmpty then
    .error (.during .versionDirective start .noVersion cursor.mark)
  else
    .ok (digits.foldl (fun value c => value * 10 + (c.toNat - 0x30)) 0,
      cursor.advance digits.length)

/-- Read the value of a version directive. -/
def readVersion (start : Mark) (cursor : Cursor) : Except Complaint (TokenKind × Cursor) := do
  let (major, after) ← readVersionPart start cursor.skipGaps
  if after.peek 0 != some '.' then
    .error (.during .versionDirective start .noVersionSeparator after.mark)
  let (minor, after) ← readVersionPart start (after.advance 1)
  return (.versionDirective major minor, after)

/-- Read the value of a tag directive. -/
def readTagDirective (start : Mark) (cursor : Cursor) :
    Except Complaint (TokenKind × Cursor) := do
  let (handle, after) ← readHandle true start cursor.skipGaps
  if !(after.peek 0).any isGap then
    .error (.during .tagDirective start .noGapAfterHandle after.mark)
  let (expansion, after) ←
    readWholeAddress true .tagDirectiveAddress start [] after.skipGaps
  if !endsWord (after.peek 0) then
    .error (.during .tagDirective start .noEndAfterTagDirective after.mark)
  return (.tagDirective handle expansion, after)

/-- Read a directive and the rest of its line. -/
def readDirective (cursor : Cursor) : Except Complaint (Token × Cursor) := do
  let start := cursor.mark
  let name := (cursor.advance 1).takeWhile Text.isLabelChar
  let after := cursor.advance (1 + name.length)
  if name.isEmpty then .error (.during .directive start .noDirectiveName after.mark)
  if !endsWord (after.peek 0) then
    .error (.during .directive start .badDirectiveName after.mark)
  let (kind, after) ←
    if name == ("YAML" : Text) then readVersion start after
    else if name == ("TAG" : Text) then readTagDirective start after
    else .error (.during .directive start .unknownDirective after.mark)
  let stop := after.mark
  let after := after.skipGaps
  let after := if after.peek 0 == some '#' then after.skipToBreak else after
  if !endsLine (after.peek 0) then
    .error (.during .directive start .directiveNotEnded after.mark)
  return (⟨kind, start, stop⟩, after.skipBreak)

end FfiBindings.Markup
