/-
  TestCoverage.Command

  An external program with its arguments and the variables set for it.
-/
import TestCoverage.Environment

namespace TestCoverage

/-- A program to be started. -/
structure Command where
  program : String
  arguments : List Bytes := []
  environment : Environment := {}
deriving DecidableEq, Repr

namespace Command

/-- The command with one more argument. -/
def withArgument (command : Command) (argument : Bytes) : Command :=
  { command with arguments := command.arguments ++ [argument] }

/-- The command with more arguments. -/
def withArguments (command : Command) (arguments : List Bytes) : Command :=
  { command with arguments := command.arguments ++ arguments }

/-- The command with another environment. -/
def withEnvironment (command : Command) (environment : Environment) : Command :=
  { command with environment }

/-- The program and its arguments as they are displayed. -/
def tokens (command : Command) : List (List Char) :=
  command.program.toList :: command.arguments.map Utf8.decodeLossy

/-- Tokens in double quotes, with single spaces between them. -/
def renderTokens (tokens : List (List Char)) : List Char :=
  [' '].intercalate (tokens.map fun token => '"' :: token ++ ['"'])

/-- The command on one line, every token in double quotes.  Quotes inside a token are not
    escaped. -/
def render (command : Command) : String :=
  String.ofList (renderTokens command.tokens)

end Command
end TestCoverage
