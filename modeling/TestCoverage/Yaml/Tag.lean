/-
  TestCoverage.Yaml.Tag

  The names of tags, and the lines that tell how to read a document.

  A tag is named by an address in angle brackets, or by a handle and the end of the address;
  a line in front of the document tells which beginning of an address a handle stands for.
-/
import TestCoverage.Text.Hex
import TestCoverage.Yaml.Cursor

namespace TestCoverage.Yaml

/-! ## Addresses -/

/-- Reads an octet: a percent sign and two digits. -/
def readOctet (start : Mark) (cursor : Cursor) : Except Fault (Nat × Cursor) :=
  match cursor.text with
  | '%' :: high :: low :: _ =>
    match Text.hexValue? 0 [high, low] with
    | some octet => .ok (octet, cursor.skip 3)
    | none => .error ⟨start, "while parsing a tag, did not find URI escaped octet"⟩
  | _ => .error ⟨start, "while parsing a tag, did not find URI escaped octet"⟩

/-- How many octets follow the first one of a character. -/
def trailingOctets? (octet : Nat) : Option Nat :=
  if octet < 0x80 then some 0
  else if 0xC0 ≤ octet ∧ octet < 0xE0 then some 1
  else if 0xE0 ≤ octet ∧ octet < 0xF0 then some 2
  else if 0xF0 ≤ octet ∧ octet < 0xF8 then some 3
  else none

/-- Reads so many more octets of a character.  All bits of the octets go into its code, those
    that only tell their number included. -/
def readTrailingOctets (start : Mark) : Nat → Nat → Cursor → Except Fault (Nat × Cursor)
  | 0, code, cursor => .ok (code, cursor)
  | count + 1, code, cursor => do
    let (octet, behind) ← readOctet start cursor
    if octet < 0x80 ∨ 0xC0 ≤ octet then
      throw ⟨start, "while parsing a tag, found an incorrect trailing UTF-8 octet"⟩
    readTrailingOctets start count (code * 256 + octet) behind

/-- Reads a character that is written as octets. -/
def readOctets (start : Mark) (cursor : Cursor) : Except Fault (Char × Cursor) := do
  let (octet, behind) ← readOctet start cursor
  match trailingOctets? octet with
  | none => throw ⟨start, "while parsing a tag, found an incorrect leading UTF-8 octet"⟩
  | some count =>
    let (code, behind) ← readTrailingOctets start count octet behind
    if code < 0xD800 ∨ (0xDFFF < code ∧ code < 0x110000) then
      return (Char.ofNat code, behind)
    else throw ⟨start, "while parsing a tag, found an invalid UTF-8 codepoint"⟩

/-- Reads the characters that may stand in an address.  The number of steps is bounded by the
    length of the text. -/
def readAddress (start : Mark) (mayStand : Char → Bool) :
    Nat → Cursor → Except Fault (List Char × Cursor)
  | 0, cursor => .ok ([], cursor)
  | bound + 1, cursor =>
    let c := cursor.peek 0
    if ¬ mayStand c then .ok ([], cursor)
    else do
      let (c, behind) ← if c = '%' then readOctets start cursor else .ok (c, cursor.skip 1)
      let (text, behind) ← readAddress start mayStand bound behind
      return (c :: text, behind)

/-! ## Tags -/

/-- Reads the handle of a tag: a word between exclamation marks, of which only a line about
    tags needs the second one. -/
def readHandle (isDirective : Bool) (start : Mark) (cursor : Cursor) :
    Except Fault (List Char × Cursor) :=
  if cursor.peek 0 ≠ '!' then
    .error ⟨start, "while scanning a tag, did not find expected '!'"⟩
  else
    let word := (cursor.text.drop 1).takeWhile isWord
    let behind := cursor.skip (word.length + 1)
    if behind.peek 0 = '!' then .ok ('!' :: word ++ ['!'], behind.skip 1)
    else if isDirective ∧ word ≠ [] then
      .error ⟨start, "while parsing a tag directive, did not find expected '!'"⟩
    else .ok ('!' :: word, behind)

/-- Reads a whole address in angle brackets. -/
def readWholeAddress (cursor : Cursor) : Except Fault (List Char × Cursor) := do
  let start := cursor.mark
  let (name, behind) ← readAddress start isAddress cursor.text.length (cursor.skip 2)
  if behind.peek 0 = '>' then return (name, behind.skip 1)
  else throw ⟨start, "while scanning a verbatim tag, did not find the expected '>'"⟩

/-- Reads a tag: its handle, which a whole address does not have, and the rest of its name.
    An exclamation mark alone is a name without a handle. -/
def readTagName (cursor : Cursor) : Except Fault (List Char × List Char × Cursor) := do
  let start := cursor.mark
  let bound := cursor.text.length
  if cursor.peek 1 = '<' then
    let (name, behind) ← readWholeAddress cursor
    return ([], name, behind)
  let (handle, behind) ← readHandle false start cursor
  let (name, behind) ← readAddress start isTagName bound behind
  let word := handle.drop 1
  if word.getLast? = some '!' then
    if name.isEmpty then
      throw ⟨start, "while parsing a tag, did not find expected tag URI"⟩
    else return (handle, name, behind)
  else if word.isEmpty ∧ name.isEmpty then return ([], handle, behind)
  else return (['!'], word ++ name, behind)

/-! ## Lines about the document -/

/-- Reads a number of a version. -/
def readVersionNumber (start : Mark) (cursor : Cursor) : Except Fault Cursor :=
  let digits := cursor.text.takeWhile Char.isDigit
  if digits.isEmpty then
    .error ⟨start, "while scanning a YAML directive, did not find expected version number"⟩
  else if 9 < digits.length then
    .error ⟨start, "while scanning a YAML directive, found extremely long version number"⟩
  else .ok (cursor.skip digits.length)

/-- Reads a version: two numbers with a point between them. -/
def readVersion (start : Mark) (cursor : Cursor) : Except Fault (Kind × Cursor) := do
  let behind ← readVersionNumber start cursor.skipAllBlanks
  if behind.peek 0 ≠ '.' then
    throw
      ⟨start, "while scanning a YAML directive, did not find expected digit or '.' character"⟩
  return (.version, ← readVersionNumber start (behind.skip 1))

/-- Reads a handle and the beginning of an address that it stands for. -/
def readTagPrefix (start : Mark) (cursor : Cursor) : Except Fault (Kind × Cursor) := do
  let bound := cursor.text.length
  let (handle, behind) ← readHandle true start cursor.skipAllBlanks
  let behind := behind.skipAllBlanks
  let c := behind.peek 0
  if ¬ (c = '!' ∨ isTagName c) then throw ⟨start, "invalid global tag character"⟩
  let (text, behind) ← readAddress start isAddress bound behind
  if isGap (behind.peek 0) then return (.tagPrefix handle text, behind)
  else
    throw ⟨start, "while scanning TAG, did not find expected whitespace or line break"⟩

/-- Reads what a line says that begins with a percent sign.  An unknown one says nothing. -/
def readDirectiveContent (start : Mark) (cursor : Cursor) : Except Fault (Kind × Cursor) :=
  let name := cursor.text.takeWhile isWord
  let behind := cursor.skip name.length
  if name.isEmpty then
    .error (cursor.fault "while scanning a directive, could not find expected directive name")
  else if ¬ isGap (behind.peek 0) then
    .error (cursor.fault
      "while scanning a directive, found unexpected non-alphabetical character")
  else if name = "YAML".toList then readVersion start behind
  else if name = "TAG".toList then readTagPrefix start behind
  else .ok (.tagPrefix [] [], behind.skipWhile fun c => !isBreakOrEnd c)

/-- Reads a whole line that begins with a percent sign. -/
def readDirectiveLine (cursor : Cursor) : Except Fault (Kind × Cursor) := do
  let start := cursor.mark
  let (kind, behind) ← readDirectiveContent start (cursor.skip 1)
  let (behind, _) ← behind.skipLineRest
  let c := behind.peek 0
  if isBreak c then return (kind, behind.skipBreak)
  else if isBreakOrEnd c then return (kind, behind)
  else
    throw ⟨start, "while scanning a directive, did not find expected comment or line break"⟩

end TestCoverage.Yaml
