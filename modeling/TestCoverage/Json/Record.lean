/-
  TestCoverage.Json.Record

  Reading JSON as values of known types.

  A record is written as an object or as a list.  In an object the members may stand in
  any order, those that no field asks for are passed over, and a field may not be given
  twice; in a list the fields come in their own order.  Fields that are not given keep
  their defaults.
-/
import TestCoverage.Json.Ignored

namespace TestCoverage.Json

/-- Reads one value of a type and the white space before it. -/
abbrev Reader (α : Type) := List Char → Except Fault (α × List Char)

/-! ## Simple values -/

/-- Reads `true` or `false`. -/
def readBool : Reader Bool := fun text =>
  match skipSpace text with
  | [] => .error (.next .eofValue [])
  | 't' :: rest => (readWord ['r', 'u', 'e'] rest).map (true, ·)
  | 'f' :: rest => (readWord ['a', 'l', 's', 'e'] rest).map (false, ·)
  | text => .error (wrongType "a boolean" text)

/-- Reads a string; `expected` names what is wanted when something else is found. -/
def readText (expected : String) : Reader (List Char) := fun text =>
  match skipSpace text with
  | [] => .error (.next .eofValue [])
  | '"' :: rest => readString rest
  | text => .error (wrongType expected text)

/-- Reads `null` or a value. -/
def readOption {α : Type} (read : Reader α) : Reader (Option α) := fun text =>
  match skipSpace text with
  | 'n' :: rest => (readWord ['u', 'l', 'l'] rest).map (none, ·)
  | text => (read text).map fun (value, rest) => (some value, rest)

/-! ## Lists -/

/-- What comes next in a list or an object: its end and the text behind it, or the text of
    one more element. -/
inductive Next where
  | last (rest : List Char)
  | more (text : List Char)

/-- Looks for the next element of a list. -/
def nextElement (isFirst : Bool) (text : List Char) : Except Fault Next :=
  match skipSpace text with
  | [] => .error (.next .eofList [])
  | c :: rest =>
    if c = ']' then .ok (.last rest)
    else if isFirst then .ok (.more (c :: rest))
    else if c = ',' then
      match skipSpace rest with
      | [] => .error (.next .eofValue [])
      | c :: rest =>
        if c = ']' then .error (.next .trailingComma (c :: rest)) else .ok (.more (c :: rest))
    else .error (.next .expectedListCommaOrEnd (c :: rest))

/-- Reads the elements of a list and its closing bracket.  The number of elements is
    bounded by the length of the text. -/
def readElements {α : Type} (read : Reader α) : Nat → Bool → Reader (List α)
  | 0, _, text => .error (.next .eofList text)
  | bound + 1, isFirst, text =>
    match nextElement isFirst text with
    | .error fault => .error fault
    | .ok (.last rest) => .ok ([], rest)
    | .ok (.more text) =>
      match read text with
      | .error fault => .error fault
      | .ok (value, rest) =>
        (readElements read bound false rest).map fun (values, rest) => (value :: values, rest)

/-- Reads a list. -/
def readList {α : Type} (read : Reader α) : Reader (List α) := fun text =>
  match skipSpace text with
  | [] => .error (.next .eofValue [])
  | '[' :: rest => readElements read (rest.length + 1) true rest
  | text => .error (wrongType "a sequence" text)

/-! ## Records -/

/-- A field of a record: its name, and how its value is read into the record. -/
structure Field (σ : Type) where
  name : String
  read : σ → Reader σ

/-- A field read by a reader of its own type. -/
def Field.of {σ α : Type} (name : String) (read : Reader α) (set : α → σ → σ) : Field σ where
  name := name
  read record text := (read text).map fun (value, rest) => (set value record, rest)

/-- A type of records: its name, its fields in order, and the record with no field given. -/
structure Shape (σ : Type) where
  name : String
  fields : List (Field σ)
  default : σ

/-- The field that a key names. -/
def Shape.field? {σ : Type} (shape : Shape σ) (key : List Char) : Option (Field σ) :=
  shape.fields.find? fun field => field.name.toList == key

/-- Looks for the next member of an object; the text of one more member begins behind the
    opening quote of its key. -/
def nextMember (isFirst : Bool) (text : List Char) : Except Fault Next :=
  match skipSpace text with
  | [] => .error (.next .eofObject [])
  | c :: rest =>
    if c = '\x7d' then .ok (.last rest)
    else if isFirst then
      if c = '"' then .ok (.more rest) else .error (.next .keyMustBeString (c :: rest))
    else if c = ',' then
      match skipSpace rest with
      | [] => .error (.next .eofValue [])
      | c :: rest =>
        if c = '"' then .ok (.more rest)
        else if c = '\x7d' then .error (.next .trailingComma (c :: rest))
        else .error (.next .keyMustBeString (c :: rest))
    else .error (.next .expectedObjectCommaOrEnd (c :: rest))

/-- A key is given twice.  The object counts as read to its end if it ends there. -/
def duplicateFault (name : String) (text : List Char) : Fault :=
  match skipSpace text with
  | '\x7d' :: rest => .here (.duplicateField name) rest
  | text => .here (.duplicateField name) text

/-- Reads one member from behind the opening quote of its key.  `given` are the fields
    that earlier members have set. -/
def Shape.readMember {σ : Type} (shape : Shape σ) (given : List String) (record : σ)
    (text : List Char) : Except Fault ((List String × σ) × List Char) := do
  let (key, text) ← readString text
  match shape.field? key with
  | none =>
    let text ← readColon text
    let text ← skipValue text
    return ((given, record), text)
  | some field =>
    if field.name ∈ given then throw (duplicateFault field.name text)
    let text ← readColon text
    let (record, text) ← field.read record text
    return ((field.name :: given, record), text)

/-- Reads the members of an object and its closing brace.  The number of members is
    bounded by the length of the text. -/
def Shape.readMembers {σ : Type} (shape : Shape σ) :
    Nat → Bool → List String → σ → Reader σ
  | 0, _, _, _, text => .error (.next .eofObject text)
  | bound + 1, isFirst, given, record, text =>
    match nextMember isFirst text with
    | .error fault => .error fault
    | .ok (.last rest) => .ok (record, rest)
    | .ok (.more text) =>
      match shape.readMember given record text with
      | .error fault => .error fault
      | .ok ((given, record), rest) => shape.readMembers bound false given record rest

/-- Reads the end of a list that has an element for every field. -/
def readListEnd (text : List Char) : Except Fault (List Char) :=
  match skipSpace text with
  | [] => .error (.next .eofList [])
  | c :: rest =>
    if c = ']' then .ok rest
    else if c = ',' then
      match skipSpace rest with
      | ']' :: behind => .error (.next .trailingComma (']' :: behind))
      | text => .error (.next .trailingCharacters text)
    else .error (.next .trailingCharacters (c :: rest))

/-- Reads the fields of a record from a list and its closing bracket. -/
def readFields {σ : Type} : List (Field σ) → Bool → σ → Reader σ
  | [], _, record, text => (readListEnd text).map (record, ·)
  | field :: fields, isFirst, record, text =>
    match nextElement isFirst text with
    | .error fault => .error fault
    | .ok (.last rest) => .ok (record, rest)
    | .ok (.more text) =>
      match field.read record text with
      | .error fault => .error fault
      | .ok (record, rest) => readFields fields false record rest

/-- Reads a record. -/
def Shape.read {σ : Type} (shape : Shape σ) : Reader σ := fun text =>
  match skipSpace text with
  | [] => .error (.next .eofValue [])
  | '\x7b' :: rest => shape.readMembers (rest.length + 1) true [] shape.default rest
  | '[' :: rest => readFields shape.fields true shape.default rest
  | text => .error (wrongType s!"struct {shape.name}" text)

/-! ## Documents -/

/-- Reads a whole document: one value, and nothing but white space behind it. -/
def readDocument {α : Type} (read : Reader α) (document : List Char) : Except Error α :=
  match read document with
  | .error fault => .error (fault.locate document)
  | .ok (value, rest) =>
    match skipSpace rest with
    | [] => .ok value
    | rest => .error ((Fault.next .trailingCharacters rest).locate document)

end TestCoverage.Json
