/-
  TestCoverage.Awk.Layout

  Texts made from a format and values.
-/
import TestCoverage.Awk.Value

namespace TestCoverage.Awk

namespace Layout

/-- Why a format cannot be followed to its end. -/
inductive Mistake where
  | notEnough
  /-- the conversion of this number makes no sense -/
  | improper (number : Nat)
deriving DecidableEq, Repr

/-- The mistake in words, with the function and the format. -/
def Mistake.message (mistake : Mistake) (function : String) (format : List Char) : List Char :=
  let inCall := function.toList ++ "(\"".toList ++ format ++ "\")".toList
  match mistake with
  | notEnough => "not enough arguments passed to ".toList ++ inCall
  | improper number =>
    let text := s!"improper conversion(number {number}) in "
    text.toList ++ inCall

/-- The character that a value stands for: the first one of a text, or the one of a number. -/
def charOf (value : Value) : Char :=
  match value.number? with
  | some x => Char.ofNat ((Numeral.cut x) % 256).toNat
  | none => (value.toText []).headD '\x00'

/-- Writes a value by a conversion, with a format for numbers in texts.  Nothing if the kind of
    conversion is unknown. -/
def convert? (numbers : List Char) (conversion : Shell.Format.Conversion) (kind : Char)
    (value : Value) : Option (List Char) :=
  match kind with
  | 'c' => some (conversion.pad [charOf value])
  | 's' => some (conversion.ofText (value.toText numbers))
  | 'd' | 'i' => some (conversion.ofSigned value.toInt)
  | 'u' => some (conversion.ofUnsigned 10 [] false value.toInt)
  | 'o' => some (conversion.ofUnsigned 8 ['0'] false value.toInt)
  | 'x' => some (conversion.ofUnsigned 16 ['0', 'x'] false value.toInt)
  | 'X' => some (conversion.ofUnsigned 16 ['0', 'X'] true value.toInt)
  | 'e' | 'E' | 'f' | 'F' | 'g' | 'G' => some (conversion.ofDouble kind value.toNumber)
  | _ => none

/-- The character says how large a number is, which does not matter. -/
def isSize (c : Char) : Bool :=
  c == 'h' || c == 'l' || c == 'L'

/-- Writes values by a format, some conversions of which have been used.  The text ends before
    the first mistake.  The bound is the length of the format. -/
def write (numbers : List Char) :
    Nat → Nat → List Char → List Value → List Char × Option Mistake
  | 0, _, _, _ | _, _, [], _ => ([], none)
  | bound + 1, used, '%' :: '%' :: format, values =>
    let (text, mistake) := write numbers bound used format values
    ('%' :: text, mistake)
  | bound + 1, used, '%' :: format, values =>
    let (conversion, behind, left) :=
      Shell.Format.readConversion format (values.map (Value.toText "%d".toList))
    match behind.dropWhile isSize, values.drop (values.length - left.length) with
    | [], _ => ([], some (.improper (used + 1)))
    | kind :: _, [] =>
      ([], some (if (convert? numbers conversion kind .nothing).isSome then .notEnough
        else .improper (used + 1)))
    | kind :: format, value :: values =>
      match convert? numbers conversion kind value with
      | none => ([], some (.improper (used + 1)))
      | some first =>
        let (text, mistake) := write numbers bound (used + 1) format values
        (first ++ text, mistake)
  | bound + 1, used, c :: format, values =>
    let (text, mistake) := write numbers bound used format values
    (c :: text, mistake)

/-- The text of values by a format, as far as there is no mistake. -/
def text (numbers format : List Char) (values : List Value) : List Char × Option Mistake :=
  write numbers format.length 0 format values

example : text [] "%*d|%-3c|%.2s".toList [.ofInt 4, .ofInt 42, .text "xy".toList,
    .input "abc".toList] = ("  42|x  |ab".toList, none) := by decide +kernel
example : text [] "%d %d".toList [.ofInt 1] = ("1 ".toList, some .notEnough) := by
  decide +kernel
example : text [] "%5%".toList [.nothing] = ([], some (.improper 1)) := by decide +kernel

end Layout
end TestCoverage.Awk
