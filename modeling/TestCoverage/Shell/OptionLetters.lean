/-
  TestCoverage.Shell.OptionLetters

  Options of a script read one letter at a time.

  A description lists the letters that are known, and a colon stands behind one that has a
  value.  A colon before all of them leaves the complaints to the script.
-/

namespace TestCoverage.Shell

/-- Where the reading stands: the argument that is next, counted from one, and how much of the
    one before it has been read. -/
structure OptionPlace where
  next : Nat := 1
  offset : Nat := 0
deriving DecidableEq, Repr

/-- What has been read: a letter, the value to keep for the script if there is one, and a
    complaint. -/
structure OptionRead where
  letter : Char
  value : Option (List Char) := some []
  complaint : List Char := []
  place : OptionPlace
  isEnd : Bool := false
deriving DecidableEq, Repr

namespace OptionRead

/-- The description begins with a colon. -/
def isSilent (description : List Char) : Bool :=
  description.head? == some ':'

/-- What a description says about a letter: nothing, or whether it has a value. -/
def kind? (description : List Char) (letter : Char) : Option Bool :=
  let known := if isSilent description then description.tail else description
  if letter = ':' then none
  else
    match known.dropWhile (· ≠ letter) with
    | [] => none
    | _ :: rest => some (rest.head? = some ':')

/-- Reads the option that a letter writes, given what stands behind it in its argument. -/
def ofLetter (description : List Char) (arguments : List (List Char)) (letter : Char)
    (behind : List Char) (place : OptionPlace) : OptionRead :=
  let place := if behind.isEmpty then { place with offset := 0 } else place
  match kind? description letter with
  | none =>
    if isSilent description then { letter := '?', value := some [letter], place }
    else
      { letter := '?', value := none, place
        complaint := "Illegal option -".toList ++ [letter] }
  | some false => { letter, place }
  | some true =>
    if !behind.isEmpty then
      { letter, value := some behind, place := { place with offset := 0 } }
    else
      match arguments[place.next - 1]? with
      | some value => { letter, value := some value, place := { next := place.next + 1 } }
      | none =>
        if isSilent description then { letter := ':', value := some [letter], place }
        else
          { letter := '?', value := none, place
            complaint := "No arg for -".toList ++ letter :: " option".toList }

/-- Reads the next option. -/
def read (description : List Char) (arguments : List (List Char)) (place : OptionPlace) :
    OptionRead :=
  let current := if place.offset = 0 then [] else arguments.getD (place.next - 2) []
  match current.drop place.offset with
  | letter :: behind =>
    ofLetter description arguments letter behind { place with offset := place.offset + 1 }
  | [] =>
    match arguments[place.next - 1]? with
    | some ['-', '-'] =>
      { letter := '?', value := none, place := { next := place.next + 1 }, isEnd := true }
    | some ('-' :: letter :: behind) =>
      ofLetter description arguments letter behind { next := place.next + 1, offset := 2 }
    | _ => { letter := '?', value := none, place := { place with offset := 0 }, isEnd := true }

example : (read "ab:".toList ["-ab".toList, "x".toList] {}).place = ⟨2, 2⟩ := by decide +kernel
example : (read "ab:".toList ["-ab".toList, "x".toList] ⟨2, 2⟩).value = some ['x'] := by
  decide +kernel
example : (read "a".toList ["x".toList] {}).isEnd = true := by decide +kernel
example : (read ":a".toList ["-z".toList] {}).value = some ['z'] := by decide +kernel

end OptionRead
end TestCoverage.Shell
