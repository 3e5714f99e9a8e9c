/-
  TestCoverage.Settings.Layers

  Settings from four layers, each over the ones before: what is built in, the project's
  file, the user's file, and the variables of the process.

  The entries of a layer, and of the tables in it, are gone through in the order in which they
  are written.  This order is one of many, as tables are hashed; it makes a difference only
  where two entries of a layer are about the same place.
-/
import TestCoverage.Environment
import TestCoverage.Settings.Decode
import TestCoverage.Settings.Format
import TestCoverage.Settings.Place

namespace TestCoverage

/-- What a path leads to: nothing, a file that can be read, or something else. -/
inductive Sight where
  | nothing
  | file (contents : Bytes)
  | other
deriving DecidableEq, Repr

/-- What a process sees of the world around it: its directory, its variables, what paths lead
    to, and the home directory that the system has for its user, if it has one. -/
structure Surroundings where
  directory : Path
  bindings : VariableBlock
  look : Path → Sight
  accountHome : Option Path := some (Utf8.ofString "/root")

namespace Settings

/-- What one layer says: keys, and the values for the places that they stand for. -/
abbrev Layer := Entries Item

namespace Layer

/-! ## Documents -/

/-- The layer that is built in. -/
def builtIn : String :=
  "# Defaults, behind the project's file, the user's file and the variables.

[tools]
cargo = \"cargo\"
rustc = \"rustc\"
kcov = \"kcov\"

[coverage]
rustflags = \"-C link-dead-code\"
exclude_pattern = \"/.cargo\"
output_subdir = \"cov\"
keep_going = false
"

/-- The layer that a document describes.  A document that is no table names its origin
    twice, for itself and for its value. -/
def ofDocument (format : Format) (origin : Option String) (text : List Char) :
    Except SettingsError Layer :=
  match format.read text with
  | .error reason => .error (.unreadable reason origin)
  | .ok (.table entries) => .ok (Item.ofEntries origin entries)
  | .ok datum =>
    .error (.mistyped datum.describe "a map" none
      (origin.map fun origin => s!"{origin} in {origin}"))

/-- The layer of what has been found at a path, which says nothing if it cannot be read as
    text.  Its values come from the file as it is seen from the directory of the process. -/
def ofSight (format : Format) (directory path : Path) : Sight → Except SettingsError Layer
  | .file contents =>
    match Utf8.decode? contents with
    | some text => ofDocument format (some (Utf8.display (path.relativeTo directory))) text
    | none => .ok []
  | _ => .ok []

/-- The paths with one more ending, which stand in for a path that leads to no file. -/
def substitutes (path : Path) : List (Path × Format) :=
  Format.endings.map fun (ending, format) => (path ++ Utf8.ofString s!".{ending}", format)

/-- The path leads to a file. -/
def leadsToFile (surroundings : Surroundings) (path : Path) : Bool :=
  match surroundings.look path with
  | .file _ => true
  | _ => false

/-- The layer of the file at a path.  If something else is there, a file whose name has one
    more ending takes its place, and the ending tells the format. -/
def ofFile (surroundings : Surroundings) (path : Path) : Except SettingsError Layer :=
  match surroundings.look path with
  | .other =>
    match (substitutes path).find? (leadsToFile surroundings ·.1) with
    | some (path, format) =>
      ofSight format surroundings.directory path (surroundings.look path)
    | none => .ok []
  | sight => ofSight .toml surroundings.directory path sight

/-! ## Variables -/

/-- What the names of the variables begin with, in any case. -/
def variablePrefix : List Char := "kcov_runner__".toList

/-- A name with a point for every two underscores. -/
def dotted : List Char → List Char
  | '_' :: '_' :: rest => '.' :: dotted rest
  | c :: rest => c :: dotted rest
  | [] => []

/-- The key that a variable stands for. -/
def keyOf? (name : String) : Option String :=
  let lower := Text.lowerCase name.toList
  if variablePrefix.isPrefixOf lower then
    some (String.ofList (dotted (lower.drop variablePrefix.length)))
  else none

/-- The value of a variable: a truth value or a number if the whole text writes one. -/
def scalarOf (text : List Char) : Scalar :=
  let lower := Text.lowerCase text
  if lower = "true".toList then .boolean true
  else if lower = "false".toList then .boolean false
  else match Decimal.integer? text with
    | some value => .integer value
    | none => match Decimal.float? text with
      | some value => .float value
      | none => .text (String.ofList text)

/-- What a variable says, if it is one of the program's. -/
def ofVariable? (binding : String × List Char) : Option (String × Item) :=
  (keyOf? binding.1).map fun key =>
    (key, .scalar (some "the environment") (scalarOf binding.2))

/-- The layer of the variables.  Of several that stand for one key the last one counts. -/
def ofVariables (values : Entries (List Char)) : Layer :=
  Entries.setAll [] (values.filterMap ofVariable?)

/-! ## Putting layers together -/

/-- What the layers so far say, with one more over them. -/
def onto (layer : Layer) (below : Entries Item) : Entries Item :=
  layer.foldl (fun entries (key, item) => (Place.ofKey key).assign item entries) below

end Layer

/-! ## Files -/

/-- The file with the settings of a project. -/
def projectFile (root : Path) : Path :=
  root.join (Utf8.ofString ".kcov-runner.toml")

/-- The user's home directory: the one that a variable names, or else that of the account. -/
def homeDirectory? (surroundings : Surroundings) : Option Path :=
  match surroundings.bindings.get? (Utf8.ofString "HOME") with
  | none | some [] => surroundings.accountHome
  | some home => some home

/-- The directory with the settings of a user who is at home somewhere: the one that a variable
    names by an absolute path, or else one in the home directory. -/
def settingsDirectory (surroundings : Surroundings) (home : Path) : Path :=
  let inHome := home.join (Utf8.ofString ".config")
  match surroundings.bindings.get? (Utf8.ofString "XDG_CONFIG_HOME") with
  | some directory => if Path.isAbsolute directory then directory else inHome
  | none => inHome

/-- The file with the user's settings, if there is a home directory. -/
def userFile? (surroundings : Surroundings) : Option Path :=
  (homeDirectory? surroundings).map fun home =>
    (surroundings.directory.join (settingsDirectory surroundings home)).join
      (Utf8.ofString "kcov-runner/config.toml")

/-- The layer of a file that need not be there. -/
def fileLayer (surroundings : Surroundings) : Option Path → Except SettingsError Layer
  | none => .ok []
  | some path => Layer.ofFile surroundings path

/-! ## All layers -/

/-- The variables as texts.  A name or a value that is no text cannot be passed over, even if the
    variable is not one of the program's. -/
def texts : VariableBlock → Except SettingsError (Entries (List Char))
  | [] => .ok []
  | (name, value) :: rest =>
    match Utf8.decode? name, Utf8.decode? value with
    | none, _ => .error (.notText name)
    | some _, none => .error (.notText value)
    | some name, some value => do return (String.ofList name, value) :: (← texts rest)

/-- The layers of a process, with that of a project if there is one, from the lowest on. -/
def layers (surroundings : Surroundings) (project : Option Path) :
    Except SettingsError (List Layer) := do
  let builtIn ← Layer.ofDocument .toml none Layer.builtIn.toList
  let ofProject ← fileLayer surroundings (project.map projectFile)
  let ofUser ← fileLayer surroundings (userFile? surroundings)
  let values ← texts surroundings.bindings
  return [builtIn, ofProject, ofUser, Layer.ofVariables values]

/-- What layers say together, each over the ones before. -/
def stacked (layers : List Layer) : Entries Item :=
  layers.foldl (fun below layer => layer.onto below) []

/-- The settings of a process, with those of a project if there is one. -/
def load (surroundings : Surroundings) (project : Option Path) :
    Except SettingsError Settings := do
  decode (stacked (← layers surroundings project))

end Settings
end TestCoverage
