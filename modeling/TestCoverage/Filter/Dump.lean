/-
  TestCoverage.Filter.Dump

  Bytes written as numbers or as the names of characters, so many to a line, with the
  number of the first byte in front of each line.
-/
import TestCoverage.Decimal.Power
import TestCoverage.Filter.Lines

namespace TestCoverage.Filter

/-- How bytes are written. -/
inductive DumpKind where
  | character
  | name
  | signed (size : Nat)
  | unsigned (size : Nat)
  | octal (size : Nat)
  | hexadecimal (size : Nat)
deriving DecidableEq, Repr

namespace DumpKind

/-- The number of bytes that are written together. -/
def size : DumpKind → Nat
  | character | name => 1
  | signed size | unsigned size | octal size | hexadecimal size => size

/-- One more than the largest number of so many bytes. -/
def limit (size : Nat) : Nat :=
  Decimal.twoTo (8 * size)

/-- The number of digits that a number of so many bytes may have. -/
def digits (base size : Nat) : Nat :=
  (Nat.toDigits base (limit size - 1)).length

/-- The width of a field, with the space before it. -/
def width : DumpKind → Nat
  | character | name => 4
  | signed size => 2 + digits 10 size
  | unsigned size => 1 + digits 10 size
  | octal size => 1 + digits 8 size
  | hexadecimal size => 1 + digits 16 size

/-- Digits with zeros before them. -/
def withZeros (width : Nat) (digits : List Char) : List Char :=
  List.replicate (width - digits.length) '0' ++ digits

/-- The names of the first characters. -/
def controlNames : List String := [
  "nul", "soh", "stx", "etx", "eot", "enq", "ack", "bel", "bs", "ht", "nl", "vt", "ff", "cr",
  "so", "si", "dle", "dc1", "dc2", "dc3", "dc4", "nak", "syn", "etb", "can", "em", "sub",
  "esc", "fs", "gs", "rs", "us", "sp"]

/-- A byte as a character, an escape, or octal digits. -/
def showCharacter (c : Char) : List Char :=
  match c with
  | '\x00' => ['\\', '0']
  | '\x07' => ['\\', 'a']
  | '\x08' => ['\\', 'b']
  | '\t' => ['\\', 't']
  | '\n' => ['\\', 'n']
  | '\x0b' => ['\\', 'v']
  | '\x0c' => ['\\', 'f']
  | '\r' => ['\\', 'r']
  | _ =>
    if ' ' ≤ c ∧ c ≤ '~' then [c] else withZeros 3 (Nat.toDigits 8 c.toNat)

/-- A byte by its name, of which seven bits count. -/
def showName (c : Char) : List Char :=
  let n := c.toNat % 128
  if n = 127 then "del".toList
  else match controlNames[n]? with
    | some control => control.toList
    | none => [Char.ofNat n]

/-- The number that bytes write, the first one the smallest. -/
def value (bytes : List Char) : Nat :=
  bytes.foldr (fun c n => n * 256 + c.toNat) 0

/-- Bytes as they are written, without the space before them. -/
def show' (kind : DumpKind) (bytes : List Char) : List Char :=
  match kind with
  | character => showCharacter (bytes.headD '\x00')
  | name => showName (bytes.headD '\x00')
  | signed size =>
    let n := value bytes
    if n < limit size / 2 then decimal n else '-' :: decimal (limit size - n)
  | unsigned _ => decimal (value bytes)
  | octal size => withZeros (digits 8 size) (Nat.toDigits 8 (value bytes))
  | hexadecimal size => withZeros (digits 16 size) (Nat.toDigits 16 (value bytes))

/-- The kind that a text of options begins with, and the rest of it. -/
def read? : List Char → Option (DumpKind × List Char)
  | 'a' :: rest => some (name, rest)
  | 'c' :: rest => some (character, rest)
  | letter :: rest =>
    let digits := rest.takeWhile Char.isDigit
    let (size, rest) := match number? digits, rest with
      | some n, _ => (n, rest.drop digits.length)
      | none, 'C' :: rest => (1, rest)
      | none, 'S' :: rest => (2, rest)
      | none, 'I' :: rest => (4, rest)
      | none, 'L' :: rest => (8, rest)
      | none, _ => (4, rest)
    if size ∉ [1, 2, 4, 8] then none
    else match letter with
      | 'd' => some (signed size, rest)
      | 'u' => some (unsigned size, rest)
      | 'o' => some (octal size, rest)
      | 'x' => some (hexadecimal size, rest)
      | _ => none
  | [] => none

/-- The kinds that a text of options lists.  The bound is its length. -/
def readAll? : Nat → List Char → Option (List DumpKind)
  | _, [] => some []
  | 0, _ => none
  | bound + 1, text => do
    let (kind, rest) ← read? text
    return kind :: (← readAll? bound rest)

end DumpKind

/-- What a dump looks like. -/
structure Dump where
  kinds : List DumpKind := [.octal 2]
  /-- the base of the numbers in front of the lines -/
  base : Option Nat := some 8
  perLine : Nat := 16
  /-- lines that repeat the one before are written -/
  showsAll : Bool := false

namespace Dump

/-- The number of a byte, in front of a line. -/
def address (dump : Dump) (n : Nat) : List Char :=
  match dump.base with
  | none => []
  | some 16 => DumpKind.withZeros 6 (Nat.toDigits 16 n)
  | some base => DumpKind.withZeros 7 (Nat.toDigits base n)

/-- The width of what is written for so many bytes by the widest kind. -/
def blockWidth (dump : Dump) (size : Nat) : Nat :=
  dump.kinds.foldl (fun width kind => max width (kind.width * size / kind.size)) 0

/-- Bytes in groups of a size; the last group is filled up.  The bound is their number. -/
def inGroups (size : Nat) : Nat → List Char → List (List Char)
  | 0, _ | _, [] => []
  | bound + 1, bytes =>
    (bytes.take size ++ List.replicate (size - bytes.length) '\x00')
      :: inGroups size bound (bytes.drop size)

/-- The bytes of a line, written in one way. -/
def lineOf (dump : Dump) (kind : DumpKind) (bytes : List Char) : List Char :=
  let width := dump.blockWidth 8 * kind.size / 8
  (inGroups kind.size bytes.length bytes).flatMap fun group =>
    alignRight width (kind.show' group)

/-- The lines of a dump from a byte on.  The bound is the number of bytes. -/
def linesFrom (dump : Dump) : Nat → Nat → Option (List Char) → Bool → List Char → List Char
  | 0, n, _, _, _ | _, n, _, _, [] =>
    if dump.base.isSome then dump.address n ++ ['\n'] else []
  | bound + 1, n, before, wasLeftOut, bytes =>
    let line := bytes.take dump.perLine
    let rest := bytes.drop dump.perLine
    let isRepeated := before = some line ∧ ¬ rest.isEmpty
    if isRepeated ∧ ¬ dump.showsAll then
      (if wasLeftOut then [] else ['*', '\n'])
        ++ linesFrom dump bound (n + line.length) before true rest
    else
      let head := dump.address n
      let shown := dump.kinds.zipIdx.flatMap fun (kind, index) =>
        (if index = 0 then head else List.replicate head.length ' ')
          ++ dump.lineOf kind line ++ ['\n']
      shown ++ linesFrom dump bound (n + line.length) (some line) false rest

/-- The dump of bytes, of which the first has the given number. -/
def write (dump : Dump) (first : Nat) (bytes : List Char) : List Char :=
  dump.linesFrom (bytes.length + 1) first none false bytes

example : ({ kinds := [.hexadecimal 1], base := none } : Dump).write 0 "abc\n".toList =
    " 61 62 63 0a\n".toList := by decide +kernel
example : ({} : Dump).write 0 "abc".toList =
    "0000000 061141 000143\n0000003\n".toList := by decide +kernel
example : ({ kinds := [.character] } : Dump).write 0 "a\n\x00".toList =
    "0000000   a  \\n  \\0\n0000003\n".toList := by decide +kernel

end Dump
end TestCoverage.Filter
