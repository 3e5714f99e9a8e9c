/-
  TestCoverage.Files

  A tree of files: directories, files with contents, built-in programs, devices, which
  keep nothing of what is written to them, and links, which stand for other paths.

  A path is followed part by part, and every part before the last must be a directory or a
  link to one.
-/
import TestCoverage.Path

namespace TestCoverage

/-- A file that keeps nothing. -/
inductive Device where
  /-- takes everything, and is empty -/
  | null
  /-- takes everything, and gives the same byte over and over -/
  | endless (byte : UInt8)
  /-- takes nothing -/
  | full
  /-- stands for what a descriptor of the process that opens it is joined to -/
  | descriptor (number : Nat)
deriving DecidableEq, Repr

/-- What the owner of a file, its group and the others may do with it: three bits each, for
    reading, writing and running. -/
abbrev Rights := Nat

namespace Rights

/-- Everyone may read, and the owner may write. -/
def ofFile : Rights := 0o644

/-- Everyone may read and run, and the owner may write. -/
def ofProgram : Rights := 0o755

/-- Somebody may run it. -/
def allowRunning (rights : Rights) : Bool :=
  rights.land 0o111 != 0

/-- The rights without those that a mask takes away. -/
def without (rights mask : Rights) : Rights :=
  rights - rights.land mask

end Rights

/-- What stands at a place of the tree. -/
inductive Node where
  | directory (rights : Rights)
  | file (contents : Bytes) (rights : Rights)
  | program (name : String)
  | device (device : Device)
  | link (target : Bytes)
deriving DecidableEq, Repr

/-- The node is a directory. -/
def Node.isDirectory : Node → Bool
  | directory _ => true
  | _ => false

/-- The node is a link. -/
def Node.isLink : Node → Bool
  | link _ => true
  | _ => false

/-- A place of the tree: the names that lead to it from the root. -/
abbrev Location := List Bytes

/-- The place that the parts of a path name, whatever they lead to: two dots only undo the part
    before them. -/
def Location.named (directory : Location) (path : Path) : Location :=
  (Text.pieces Path.separator path).foldl (fun place part =>
    if part.isEmpty ∨ part = Path.here then place
    else if part = Path.above then place.dropLast
    else place ++ [part]) (if path.isAbsolute then [] else directory)

/-- Why a file cannot be used. -/
inductive FileError where
  | notFound
  | notADirectory
  | permissionDenied
  | nameTooLong
  | tooManyLinks
deriving DecidableEq, Repr

/-- A tree of files.  What lies on the way to a node is a directory. -/
structure Files where
  nodes : List (Location × Node) := []
deriving DecidableEq, Repr

namespace Files

/-- What stands at a place. -/
def node? (files : Files) (location : Location) : Option Node :=
  match files.nodes.find? (·.1 = location) with
  | some (_, node) => some node
  | none =>
    if location.isEmpty ∨ files.nodes.any (fun (other, _) => location.isPrefixOf other) then
      some (.directory Rights.ofProgram)
    else none

/-- Puts a node at a place. -/
def put (files : Files) (location : Location) (node : Node) : Files :=
  if files.nodes.any (·.1 = location) then
    ⟨files.nodes.map fun (other, old) => (other, if other = location then node else old)⟩
  else ⟨files.nodes ++ [(location, node)]⟩

/-- Takes away a place and all below it.  The directory in which it was stays. -/
def remove (files : Files) (location : Location) : Files :=
  let parent := location.dropLast
  let rest : Files := ⟨files.nodes.filter fun (other, _) => !location.isPrefixOf other⟩
  if (rest.node? parent).isSome then rest
  else rest.put parent (.directory Rights.ofProgram)

/-- The names in a directory. -/
def namesIn (files : Files) (location : Location) : List Bytes :=
  (files.nodes.filterMap fun (other, _) =>
    if location.isPrefixOf other then (other.drop location.length).head? else none).eraseDups

/-! ## Following paths -/

/-- The longest name that a file may have. -/
def maxName : Nat := 255

/-- The longest path that can be followed. -/
def maxPath : Nat := 4095

/-- How many links may lead to each other. -/
def maxLinks : Nat := 40

/-- Follows the parts of a path from a place.  A link is entered by following its target, but
    one at the end only if that is asked for. -/
def followWith (files : Files) (enter : Location → Bytes → Except FileError Location)
    (entersLast : Bool) (location : Location) : List Bytes → Except FileError Location
  | [] => .ok location
  | part :: rest =>
    match files.node? location with
    | none => .error .notFound
    | some (.directory _) =>
      if part.isEmpty ∨ part = Path.here then
        followWith files enter entersLast location rest
      else if part = Path.above then
        followWith files enter entersLast location.dropLast rest
      else if maxName < part.length then .error .nameTooLong
      else match files.node? (location ++ [part]) with
        | some (.link target) =>
          if rest.isEmpty ∧ ¬ entersLast then .ok (location ++ [part])
          else match enter location target with
            | .ok place => followWith files enter entersLast place rest
            | .error error => .error error
        | _ => followWith files enter entersLast (location ++ [part]) rest
    | some _ => .error .notADirectory

/-- Follows the target of a link from the directory in which the link is.  So many links may
    lead to each other. -/
def enterLink (files : Files) : Nat → Location → Bytes → Except FileError Location
  | 0, _, _ => .error .tooManyLinks
  | links + 1, location, target =>
    if target.isEmpty then .error .notFound
    else
      files.followWith (enterLink files links) true
        (if Path.isAbsolute target then [] else location) (Text.pieces Path.separator target)

/-- The place that a path leads to from a directory, which may be named by way of links.
    Nothing need stand there yet. -/
def locateFrom (files : Files) (entersLast : Bool) (directory : Location) (path : Path) :
    Except FileError Location :=
  if path.isEmpty then .error .notFound
  else if maxPath < path.length then .error .nameTooLong
  else
    let parts := Text.pieces Path.separator path
    files.followWith (files.enterLink maxLinks) entersLast []
      (if path.isAbsolute then parts else directory ++ parts)

/-- The place that a path leads to from a directory. -/
def locate (files : Files) (directory : Location) (path : Path) : Except FileError Location :=
  files.locateFrom true directory path

/-- The place of what a path names, which may be a link. -/
def locateEntry (files : Files) (directory : Location) (path : Path) :
    Except FileError Location :=
  files.locateFrom false directory path

/-- The place and what stands there. -/
def nodeAt (files : Files) (place : Except FileError Location) :
    Except FileError (Location × Node) := do
  let location ← place
  match files.node? location with
  | some node => return (location, node)
  | none => .error .notFound

/-- What a path leads to from a directory. -/
def find (files : Files) (directory : Location) (path : Path) :
    Except FileError (Location × Node) :=
  files.nodeAt (files.locate directory path)

/-- What a path names, which may be a link. -/
def findEntry (files : Files) (directory : Location) (path : Path) :
    Except FileError (Location × Node) :=
  files.nodeAt (files.locateEntry directory path)

/-- Adds to the end of a file, which is made if it is not there. -/
def append (files : Files) (location : Location) (bytes : Bytes) : Files :=
  match files.node? location with
  | some (.file contents rights) => files.put location (.file (contents ++ bytes) rights)
  | some _ => files
  | none => files.put location (.file bytes Rights.ofFile)

end Files
end TestCoverage
