/-
  TestCoverage.Awk.Syntax

  Programs that work on records and their fields: rules with conditions, and functions.
-/
import TestCoverage.Decimal.Binary64

namespace TestCoverage.Awk

/-- An operation on two numbers. -/
inductive Operation where
  | add
  | subtract
  | multiply
  | divide
  | remainder
  | power
deriving DecidableEq, Repr

/-- How two values are to be to each other. -/
inductive Relation where
  | less
  | lessOrEqual
  | equal
  | different
  | greater
  | greaterOrEqual
deriving DecidableEq, Repr

/-- An expression. -/
inductive Expression where
  | number (value : Binary64)
  | text (text : List Char)
  /-- a pattern that the record, or an operand, has to match -/
  | pattern (source : List Char)
  | variable' (name : String)
  | item (array : String) (keys : List Expression)
  | field (number : Expression)
  | assign (operation : Option Operation) (target value : Expression)
  /-- adds one or takes one away; the value is the one before or behind that -/
  | step (up before : Bool) (target : Expression)
  | negative (inner : Expression)
  | positive (inner : Expression)
  | not (inner : Expression)
  | compute (operation : Operation) (first second : Expression)
  | join (first second : Expression)
  | compare (relation : Relation) (first second : Expression)
  | fits (negated : Bool) (value pattern : Expression)
  | within (keys : List Expression) (array : String)
  | and (first second : Expression)
  | or (first second : Expression)
  | choose (condition yes no : Expression)
  | call (name : String) (arguments : List Expression)
  | builtIn (name : String) (arguments : List Expression)
  /-- reads a record from the main input, a file or a program, into a target or the record -/
  | readMain (target : Option Expression)
  | readFile (target : Option Expression) (file : Expression)
  | readProgram (target : Option Expression) (command : Expression)

/-- Where something is written. -/
inductive Destination where
  | output
  | file (name : Expression) (keeps : Bool)
  | program (command : Expression)

/-- A statement. -/
inductive Statement where
  | expression (expression : Expression)
  | print (values : List Expression) (destination : Destination)
  | format (values : List Expression) (destination : Destination)
  | branch (condition : Expression) (yes no : List Statement)
  | while' (condition : Expression) (body : List Statement)
  | repeat' (body : List Statement) (condition : Expression)
  | count (first : List Statement) (condition : Expression) (step body : List Statement)
  | forEach (name array : String) (body : List Statement)
  | break'
  | continue'
  | next
  | nextFile
  | exit (status : Option Expression)
  | return' (value : Option Expression)
  | deleteItem (array : String) (keys : List Expression)
  | deleteAll (array : String)

/-- When a rule applies. -/
inductive Condition where
  | begin
  | finish
  | always
  | when (condition : Expression)
  /-- from one record on to another -/
  | between (first last : Expression)

/-- A rule: when it applies, and what is done then.  Without a body the record is written. -/
structure Rule where
  condition : Condition
  body : Option (List Statement)

/-- A function. -/
structure Function where
  name : String
  parameters : List String
  body : List Statement

/-- A program. -/
structure Program where
  rules : List Rule := []
  functions : List Function := []

end TestCoverage.Awk
