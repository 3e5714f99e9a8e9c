/-
  TestCoverage.Text.Utf8

  Text as bytes and back.  Operating-system strings are any bytes; text is written to
  them in UTF-8, read back strictly (ill-formed bytes are refused), or read back for
  display (each maximal ill-formed stretch becomes one replacement character).

  Both readings are views of one scan, `units`, which cuts the bytes into characters and
  ill-formed stretches.
-/

namespace TestCoverage

/-- A string of the operating system: an argument, a path, a variable's value. -/
abbrev Bytes := List UInt8

namespace Utf8

/-! ## Writing -/

/-- The UTF-8 form of a text. -/
def encode (text : List Char) : Bytes :=
  text.flatMap String.utf8EncodeChar

/-- The number of bytes in the UTF-8 form of a text. -/
def size : List Char → Nat
  | [] => 0
  | c :: rest => c.utf8Size + size rest

@[simp] theorem encode_nil : encode [] = [] := rfl

@[simp] theorem encode_cons (c : Char) (text : List Char) :
    encode (c :: text) = String.utf8EncodeChar c ++ encode text := rfl

@[simp] theorem encode_append (a b : List Char) : encode (a ++ b) = encode a ++ encode b := by
  simp [encode]

/-! ## Cutting bytes into characters -/

/-- A character whose first bytes have been read: how many bytes are missing, the range
    in which the next one must lie, and the bits so far. -/
structure Begun where
  missing : Nat
  low : Nat
  high : Nat
  bits : Nat
deriving DecidableEq, Repr

/-- The first byte of a character of several bytes.  The range for the second byte shuts
    out overlong forms, surrogates and numbers above `10FFFF`. -/
def begin? (b : Nat) : Option Begun :=
  if b < 0xC2 then none
  else if b < 0xE0 then some ⟨1, 0x80, 0xBF, b - 0xC0⟩
  else if b = 0xE0 then some ⟨2, 0xA0, 0xBF, 0⟩
  else if b = 0xED then some ⟨2, 0x80, 0x9F, 13⟩
  else if b < 0xF0 then some ⟨2, 0x80, 0xBF, b - 0xE0⟩
  else if b = 0xF0 then some ⟨3, 0x90, 0xBF, 0⟩
  else if b < 0xF4 then some ⟨3, 0x80, 0xBF, b - 0xF0⟩
  else if b = 0xF4 then some ⟨3, 0x80, 0x8F, 4⟩
  else none

/-- One byte read where a character may begin: what is complete, and what is begun. -/
def first (b : UInt8) : List (Option Char) × Option Begun :=
  if b.toNat < 0x80 then ([some (Char.ofNat b.toNat)], none)
  else match begin? b.toNat with
    | some begun => ([], some begun)
    | none => ([none], none)

/-- One more byte.  A byte that does not continue what is begun ends an ill-formed
    stretch, and is itself read afresh. -/
def next (begun : Option Begun) (b : UInt8) : List (Option Char) × Option Begun :=
  match begun with
  | none => first b
  | some p =>
    if p.low ≤ b.toNat ∧ b.toNat ≤ p.high then
      let bits := p.bits * 64 + (b.toNat - 0x80)
      if p.missing = 1 then ([some (Char.ofNat bits)], none)
      else ([], some ⟨p.missing - 1, 0x80, 0xBF, bits⟩)
    else (none :: (first b).1, (first b).2)

/-- The characters of a byte string in order, `none` for each ill-formed stretch. -/
def units (begun : Option Begun) : Bytes → List (Option Char)
  | [] => if begun.isSome then [none] else []
  | b :: rest => (next begun b).1 ++ units (next begun b).2 rest

/-! ## Reading -/

/-- The text, if every byte belongs to a character. -/
def decode? (bytes : Bytes) : Option (List Char) :=
  (units none bytes).mapM id

/-- The text, with U+FFFD for each ill-formed stretch. -/
def decodeLossy (bytes : Bytes) : List Char :=
  (units none bytes).map (·.getD '\uFFFD')

/-- A byte string as it is displayed. -/
def display (bytes : Bytes) : String :=
  String.ofList (decodeLossy bytes)

/-- The UTF-8 form of a string. -/
def ofString (text : String) : Bytes :=
  encode text.toList

example : decode? (ofString "aé日😀") = some "aé日😀".toList := by decide +kernel
example : decode? [0xED, 0xA0, 0x80] = none := by decide
example : decodeLossy [0x7A, 0xE9] = ['z', '\uFFFD'] := by decide
example : decodeLossy [0xED, 0xA0, 0x80] = ['\uFFFD', '\uFFFD', '\uFFFD'] := by decide
example : decodeLossy [0xF0, 0x9F, 0x98, 0x41] = ['\uFFFD', 'A'] := by decide

end Utf8
end TestCoverage
