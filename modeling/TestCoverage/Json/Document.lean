/-
  TestCoverage.Json.Document

  JSON as data of any kind.

  Lists and objects may be nested in each other, but not without bound.  A name that an
  object gives twice has the last value.
-/
import TestCoverage.Datum
import TestCoverage.Json.Record

namespace TestCoverage.Json

/-- How deep lists and objects may be nested. -/
def maxDepth : Nat := 127

/-- What a token that is no list and no object stands for. -/
def Found.datum : Found → Datum
  | .null | .sequence | .map => .nothing
  | .boolean value => .boolean value
  | .integer value => .ofInt value
  | .float value => .float value
  | .string text => .text (String.ofList text)

/-- Reads the members of an object and its closing brace.  The number of members is
    bounded by the length of the text. -/
def readMembers (read : Reader Datum) : Nat → Bool → Reader (List (String × Datum))
  | 0, _, text => .error (.next .eofObject text)
  | bound + 1, isFirst, text =>
    match nextMember isFirst text with
    | .error fault => .error fault
    | .ok (.last rest) => .ok ([], rest)
    | .ok (.more text) => do
      let (name, text) ← readString text
      let (value, text) ← read (← readColon text)
      let (members, rest) ← readMembers read bound false text
      return ((String.ofList name, value) :: members, rest)

/-- Reads a value in which others are nested to a given depth. -/
def readDatum : Nat → Reader Datum
  | 0, text =>
    match skipSpace text with
    | '[' :: rest => .error (.next .tooDeep ('[' :: rest))
    | '\x7b' :: rest => .error (.next .tooDeep ('\x7b' :: rest))
    | text => (readToken text).map fun (found, rest) => (found.datum, rest)
  | depth + 1, text =>
    match skipSpace text with
    | '[' :: rest =>
      (readElements (readDatum depth) (rest.length + 1) true rest).map fun (elements, rest) =>
        (.list elements, rest)
    | '\x7b' :: rest =>
      (readMembers (readDatum depth) (rest.length + 1) true rest).map fun (members, rest) =>
        (.ofEntries members, rest)
    | text => (readToken text).map fun (found, rest) => (found.datum, rest)

/-- The data that a document describes. -/
def parse (document : List Char) : Except Error Datum :=
  readDocument (readDatum maxDepth) document

example : (parse "[1, \x7b\"a\": null\x7d]".toList).toOption.isSome = true := by decide +kernel
example : (parse "[1, ]".toList).toOption.isNone = true := by decide +kernel

end TestCoverage.Json
