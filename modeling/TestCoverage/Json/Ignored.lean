/-
  TestCoverage.Json.Ignored

  Passing over a value that nobody asked for.

  The value may be nested to any depth, so the containers that are still open are kept
  in a list and not on the call stack.
-/
import TestCoverage.Json.Token

namespace TestCoverage.Json

/-- A container whose end has not been reached. -/
inductive Container where
  | list
  | object
deriving DecidableEq, Repr

/-- What the text goes on with. -/
inductive Expecting where
  | value
  | key
  | separator
deriving DecidableEq, Repr

/-- Passes over a word, a string or a number. -/
def skipScalar (text : List Char) : Except Fault (List Char) :=
  match text with
  | [] => .error (.next .eofValue [])
  | c :: rest =>
    if c = 'n' then readWord ['u', 'l', 'l'] rest
    else if c = 't' then readWord ['r', 'u', 'e'] rest
    else if c = 'f' then readWord ['a', 'l', 's', 'e'] rest
    else if c = '"' then skipString rest
    else if c = '-' ∨ c.isDigit then (readNumeral .invalidNumber text).map (·.2)
    else .error (.next .expectedValue text)

/-- Reads the colon between a key and its value. -/
def readColon (text : List Char) : Except Fault (List Char) :=
  match skipSpace text with
  | [] => .error (.next .eofObject [])
  | c :: rest => if c = ':' then .ok rest else .error (.next .expectedColon (c :: rest))

/-- Passes over a key and the colon behind it. -/
def skipKey (text : List Char) : Except Fault (List Char) :=
  match skipSpace text with
  | [] => .error (.next .eofObject [])
  | c :: rest =>
    if c = '"' then skipString rest >>= readColon
    else .error (.next .keyMustBeString (c :: rest))

/-- One step: what is expected next, which containers are open, and the text behind. -/
def skipStep (expecting : Expecting) (opened : List Container) (text : List Char) :
    Except Fault (Expecting × List Container × List Char) :=
  match expecting with
  | .key => (skipKey text).map fun rest => (.value, opened, rest)
  | .value =>
    match skipSpace text with
    | '[' :: rest =>
      match skipSpace rest with
      | [] => .error (.next .eofList [])
      | c :: behind =>
        if c = ']' then .ok (.separator, opened, behind)
        else .ok (.value, .list :: opened, c :: behind)
    | '\x7b' :: rest =>
      match skipSpace rest with
      | [] => .error (.next .eofObject [])
      | c :: behind =>
        if c = '\x7d' then .ok (.separator, opened, behind)
        else .ok (.key, .object :: opened, c :: behind)
    | text => (skipScalar text).map fun rest => (.separator, opened, rest)
  | .separator =>
    match opened with
    | [] => .ok (.separator, [], text)
    | .list :: outer =>
      match skipSpace text with
      | [] => .error (.next .eofList [])
      | c :: rest =>
        if c = ',' then .ok (.value, opened, rest)
        else if c = ']' then .ok (.separator, outer, rest)
        else .error (.next .expectedListCommaOrEnd (c :: rest))
    | .object :: outer =>
      match skipSpace text with
      | [] => .error (.next .eofObject [])
      | c :: rest =>
        if c = ',' then .ok (.key, opened, rest)
        else if c = '\x7d' then .ok (.separator, outer, rest)
        else .error (.next .expectedObjectCommaOrEnd (c :: rest))

/-- Steps until the value has ended.  Every step reads at least one character, so the
    length of the text bounds their number. -/
def skipSteps : Nat → Expecting → List Container → List Char → Except Fault (List Char)
  | 0, _, _, text => .error (.next .eofValue text)
  | steps + 1, expecting, opened, text =>
    match skipStep expecting opened text with
    | .error fault => .error fault
    | .ok (.separator, [], rest) => .ok rest
    | .ok (expecting, opened, rest) => skipSteps steps expecting opened rest

/-- Passes over one value and the white space before it. -/
def skipValue (text : List Char) : Except Fault (List Char) :=
  skipSteps (text.length + 1) .value [] text

end TestCoverage.Json
