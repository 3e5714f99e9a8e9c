/-
  TestCoverage.Files.Rights

  Rights as they are written: in octal digits, or as changes for classes of users.
-/
import TestCoverage.Files

namespace TestCoverage.Rights

/-! ## Reading -/

/-- The bits of a class of users. -/
def classBits? : Char → Option Nat
  | 'u' => some 0o4700
  | 'g' => some 0o2070
  | 'o' => some 0o1007
  | 'a' => some 0o7777
  | _ => none

/-- The bits that a letter stands for in all classes, given the rights so far and whether
    they are those of a directory. -/
def letterBits? (isDirectory : Bool) (old : Rights) : Char → Option Nat
  | 'r' => some 0o444
  | 'w' => some 0o222
  | 'x' => some 0o111
  | 'X' => some (if isDirectory ∨ old.allowRunning then 0o111 else 0)
  | 's' => some 0o6000
  | 't' => some 0o1000
  | 'u' => some ((old / 64).land 7 * 0o111)
  | 'g' => some ((old / 8).land 7 * 0o111)
  | 'o' => some (old.land 7 * 0o111)
  | _ => none

/-- Changes rights by operators and letters for the classes with the given bits.  The bits
    that `masked` has are left alone. -/
def changeBy (isDirectory : Bool) (users masked : Nat) :
    Rights → Option (Char × Nat) → List Char → Option Rights
  | old, pending, [] => pending.map fun (sign, bits) => finish old sign bits
  | old, pending, c :: rest =>
    if c = '+' ∨ c = '-' ∨ c = '=' then
      let old := match pending with
        | some (sign, bits) => finish old sign bits
        | none => old
      changeBy isDirectory users masked old (some (c, 0)) rest
    else match pending, letterBits? isDirectory old c with
      | some (sign, bits), some more =>
        changeBy isDirectory users masked old (some (sign, bits.lor more)) rest
      | _, _ => none
where
  /-- Carries out one operator. -/
  finish (old : Rights) (sign : Char) (bits : Nat) : Rights :=
    let meant := Rights.without (bits.land users) masked
    if sign = '+' then old.lor meant
    else if sign = '-' then Rights.without old meant
    else (Rights.without old (users.land 0o777)).lor meant

/-- Changes rights by one clause. -/
def changeClause? (isDirectory : Bool) (mask : Nat) (old : Rights) (clause : List Char) :
    Option Rights :=
  let users := clause.takeWhile fun c => (classBits? c).isSome
  let rest := clause.drop users.length
  if users.isEmpty then changeBy isDirectory 0o7777 mask old none rest
  else
    changeBy isDirectory ((users.filterMap classBits?).foldl Nat.lor 0) 0 old none rest

/-- The octal number that a text writes. -/
def octal? (text : List Char) : Option Nat :=
  if text.isEmpty ∨ ¬ text.all (fun c => '0' ≤ c ∧ c ≤ '7') then none
  else some (text.foldl (fun n c => n * 8 + (c.toNat - '0'.toNat)) 0)

/-- The rights that a text makes of others: octal digits, or clauses with commas between them.
    A clause without classes leaves alone what the mask takes away.  Fewer than five digits do
    not take special rights away from a directory. -/
def change? (isDirectory : Bool) (mask : Nat) (old : Rights) (text : List Char) :
    Option Rights :=
  match octal? text with
  | some rights =>
    if 0o7777 < rights then none
    else if isDirectory ∧ text.length < 5 then some (rights.lor (old.land 0o6000))
    else some rights
  | none => (Text.pieces ',' text).foldlM (changeClause? isDirectory mask) old

example : change? false 0o022 0o644 "+x".toList = some 0o755 := by decide
example : change? false 0o022 0o644 "u=rwx,go-r".toList = some 0o700 := by decide
example : change? false 0 0o644 "600".toList = some 0o600 := by decide
example : change? false 0 0o644 "u".toList = none := by decide

/-! ## Writing -/

/-- Rights in octal digits. -/
def octalText (rights : Rights) : List Char :=
  Nat.toDigits 8 rights

/-- The three letters of a class of users.  The last one tells of a special right too. -/
def classText (bits : Nat) (isSpecial : Bool) (special : Char) : List Char :=
  let mayRun := bits.land 1 != 0
  [if bits.land 4 != 0 then 'r' else '-', if bits.land 2 != 0 then 'w' else '-',
    if isSpecial then (if mayRun then special else special.toUpper)
    else if mayRun then 'x' else '-']

/-- Rights in letters. -/
def letterText (rights : Rights) : List Char :=
  classText (rights / 64) (rights.land 0o4000 != 0) 's' ++
    classText (rights / 8) (rights.land 0o2000 != 0) 's' ++
    classText rights (rights.land 0o1000 != 0) 't'

example : letterText 0o755 = "rwxr-xr-x".toList := by decide

end TestCoverage.Rights
