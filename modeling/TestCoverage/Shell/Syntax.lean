/-
  TestCoverage.Shell.Syntax

  Shell scripts: words, which are expanded when they are used, and commands.

  All text is one character for each byte.
-/

namespace TestCoverage.Shell

/-- What happens to a parameter according to whether it is set. -/
inductive Fallback where
  /-- a word stands for what is not set -/
  | use
  /-- a word is assigned to what is not set, and stands for it -/
  | assign
  /-- a word is the message of the error that the missing value is -/
  | fail
  /-- a word stands for what is set -/
  | replace
deriving DecidableEq, Repr

/-- What a redirection does to a descriptor. -/
inductive Redirection where
  | read
  | write
  /-- writes to a file that is there, whatever the options say -/
  | force
  | append
  /-- reads a file, which is made if it is not there -/
  | update
  | copy
  | document
deriving DecidableEq, Repr

mutual

/-- A piece of a word. -/
inductive Piece where
  | plain (text : List Char)
  | literal (text : List Char)
  | quotes (pieces : List Piece)
  | parameter (name : String) (use : ParameterUse)
  | arithmetic (expression : List Piece)
  | output (body : Command)
  /-- a use of a parameter that does not exist -/
  | mistaken

/-- What is wanted of a parameter: its value, the length of its value, a value in one of two
    cases, where `orEmpty` counts an empty value as not set, or its value without what
    matches a pattern at its beginning or end. -/
inductive ParameterUse where
  | value
  | length
  | either (fallback : Fallback) (orEmpty : Bool) (word : List Piece)
  | without (atEnd longest : Bool) (pattern : List Piece)

/-- A descriptor and what becomes of it. -/
inductive Redirect where
  | redirect (descriptor : Nat) (kind : Redirection) (target : List Piece)

/-- A command. -/
inductive Command where
  | nothing
  /-- a command that begins on a line -/
  | at (line : Nat) (body : Command)
  /-- assignments, and the words of a call, if there are any -/
  | simple (assignments : List (String × List Piece)) (words : List (List Piece))
      (redirects : List Redirect)
  | pipeline (negated : Bool) (first : Command) (others : List Command)
  | sequence (first second : Command)
  | both (first second : Command)
  | either (first second : Command)
  | background (body : Command)
  | subshell (body : Command)
  | branch (condition body otherwise : Command)
  /-- repeats the body while the condition succeeds, or until it does -/
  | loop (untilSuccess : Bool) (condition body : Command)
  /-- repeats the body for each word, or for each argument -/
  | each (name : String) (words : Option (List (List Piece))) (body : Command)
  | choice (subject : List Piece) (cases : List (List (List Piece) × Command))
  | define (name : String) (body : Command)
  | redirected (body : Command) (redirects : List Redirect)

end

/-- A word: pieces without a gap between them. -/
abbrev Word := List Piece

end TestCoverage.Shell
