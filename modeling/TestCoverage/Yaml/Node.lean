/-
  TestCoverage.Yaml.Node

  The nodes of a YAML document, and what its plain texts stand for.
-/
import TestCoverage.Decimal.Reading
import TestCoverage.Text.Hex
import TestCoverage.Text.Quoted

namespace TestCoverage.Yaml

/-- A node.  One without a value has a tag that does not fit its text. -/
inductive Node where
  | null
  | invalid
  | boolean (value : Bool)
  | integer (value : Int)
  | real (text : List Char)
  | text (text : List Char)
  | list (elements : List Node)
  | map (entries : List (Node × Node))
deriving Repr

mutual

/-- Two nodes are the same. -/
def Node.isSame : Node → Node → Bool
  | .null, .null => true
  | .invalid, .invalid => true
  | .boolean a, .boolean b => a == b
  | .integer a, .integer b => a == b
  | .real a, .real b => a == b
  | .text a, .text b => a == b
  | .list a, .list b => areSame a b
  | .map a, .map b => areSameEntries a b
  | _, _ => false

/-- Two lists have the same elements in the same order. -/
def areSame : List Node → List Node → Bool
  | [], [] => true
  | a :: as, b :: bs => a.isSame b && areSame as bs
  | _, _ => false

/-- Two maps have the same entries in the same order. -/
def areSameEntries : List (Node × Node) → List (Node × Node) → Bool
  | [], [] => true
  | (key, value) :: as, (key', value') :: bs =>
    key.isSame key' && value.isSame value' && areSameEntries as bs
  | _, _ => false

end

/-! ## Texts -/

/-- The integer that digits of a base write behind an optional sign. -/
def basedInteger? (base : Nat) (text : List Char) : Option Int := do
  let (negative, digits) := Decimal.splitSign text
  if digits.isEmpty then none
  let n ← digits.foldlM (fun n c => do
    let digit ← Text.hexDigit? c
    if digit < base then some (n * base + digit) else none) 0
  Decimal.int64? negative n

/-- The names of infinity and not-a-number. -/
def realNames : List String :=
  [".inf", ".Inf", ".INF", "+.inf", "+.Inf", "+.INF", "-.inf", "-.Inf", "-.INF", ".nan", "NaN",
    ".NAN"]

/-- The text writes a number with a point or an exponent, or names one. -/
def isReal (text : List Char) : Bool :=
  realNames.contains (String.ofList text) || (Decimal.float? text).isSome

/-- The integer that a plain text writes with a mark in front. -/
def markedInteger? : List Char → Option Int
  | '0' :: 'x' :: rest => basedInteger? 16 rest
  | '0' :: 'o' :: rest => basedInteger? 8 rest
  | '+' :: rest => Decimal.integer? rest
  | _ => none

/-- The node of a plain text. -/
def Node.ofPlain (text : List Char) : Node :=
  match markedInteger? text with
  | some value => .integer value
  | none =>
    let name := String.ofList text
    if name = "~" ∨ name = "null" then .null
    else if name = "true" then .boolean true
    else if name = "false" then .boolean false
    else match Decimal.integer? text with
      | some value => .integer value
      | none => if isReal text then .real text else .text text

/-- The prefix of the tags that every document knows. -/
def commonTag : List Char := "tag:yaml.org,2002:".toList

/-- The node of a plain text with a tag, which is given without the common prefix if it
    has it. -/
def Node.ofTagged (name : Option (List Char)) (text : List Char) : Node :=
  match name.map String.ofList with
  | some "bool" =>
    if text = "true".toList then .boolean true
    else if text = "false".toList then .boolean false
    else .invalid
  | some "int" => match Decimal.integer? text with
    | some value => .integer value
    | none => .invalid
  | some "float" => if isReal text then .real text else .invalid
  | some "null" => if text = "~".toList ∨ text = "null".toList then .null else .invalid
  | _ => .text text

/-- The node of a text with a tag or without. -/
def Node.ofScalar (tag : Option (List Char × List Char)) (isPlain : Bool) (text : List Char) :
    Node :=
  if ¬ isPlain then .text text
  else match tag with
    | none => .ofPlain text
    | some (handle, suffix) =>
      .ofTagged (if handle = commonTag then some suffix else none) text

/-! ## In words -/

mutual

/-- The node as an error shows it. -/
def Node.show : Node → String
  | .null => "Null"
  | .invalid => "BadValue"
  | .boolean value => s!"Boolean({value})"
  | .integer value => s!"Integer({value})"
  | .real chars => s!"Real({Text.quoted chars})"
  | .text chars => s!"String({Text.quoted chars})"
  | .list elements => "Array([" ++ ", ".intercalate (showElements elements) ++ "])"
  | .map entries => "Hash(\x7b" ++ ", ".intercalate (showEntries entries) ++ "\x7d)"

/-- The elements of a list as an error shows them. -/
def showElements : List Node → List String
  | [] => []
  | node :: rest => node.show :: showElements rest

/-- The entries of a map as an error shows them. -/
def showEntries : List (Node × Node) → List String
  | [] => []
  | (key, value) :: rest => s!"{key.show}: {value.show}" :: showEntries rest

end

end TestCoverage.Yaml
