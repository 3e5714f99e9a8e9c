/-
  TestCoverage.Proofs.Json.Grammar

  JSON texts as the grammar has them, apart from any reader.  A value is a tree in which
  numbers are kept as they are written and strings as the pieces that they are written with;
  what a string stands for is a second question, because an escape can be well-formed and
  still stand for nothing.
-/
import TestCoverage.Text.Hex

namespace TestCoverage.Json

/-! ## White space -/

/-- The text is white space. -/
def Spaces (text : List Char) : Prop :=
  ∀ c ∈ text, c = ' ' ∨ c = '\n' ∨ c = '\t' ∨ c = '\r'

/-! ## Strings -/

/-- A piece of a string: a character, or a sixteen-bit unit that is written by its number. -/
inductive Piece where
  | char (c : Char)
  | unit (number : Nat)
deriving DecidableEq, Repr

/-- The letters that may follow a backslash, with what they stand for. -/
def escapes : List (Char × Char) :=
  [('"', '"'), ('\\', '\\'), ('/', '/'), ('b', '\x08'), ('f', '\x0c'), ('n', '\n'),
    ('r', '\r'), ('t', '\t')]

/-- How a piece is written. -/
inductive IsPiece : Piece → List Char → Prop where
  | plain {c : Char} (hquote : c ≠ '"') (hbackslash : c ≠ '\\') (hcontrol : 0x20 ≤ c.toNat) :
      IsPiece (.char c) [c]
  | escape {letter c : Char} (hescape : (letter, c) ∈ escapes) :
      IsPiece (.char c) ['\\', letter]
  | unit {h₁ h₂ h₃ h₄ : Char} {d₁ d₂ d₃ d₄ : Nat} (hd₁ : Text.hexDigit? h₁ = some d₁)
      (hd₂ : Text.hexDigit? h₂ = some d₂) (hd₃ : Text.hexDigit? h₃ = some d₃)
      (hd₄ : Text.hexDigit? h₄ = some d₄) :
      IsPiece (.unit (((d₁ * 16 + d₂) * 16 + d₃) * 16 + d₄)) ['\\', 'u', h₁, h₂, h₃, h₄]

/-- How pieces are written, one behind the other. -/
inductive IsPieces : List Piece → List Char → Prop where
  | nil : IsPieces [] []
  | cons {piece : Piece} {pieces : List Piece} {written rest : List Char}
      (hpiece : IsPiece piece written) (hpieces : IsPieces pieces rest) :
      IsPieces (piece :: pieces) (written ++ rest)

/-- The unit is the first half of a surrogate pair. -/
def IsHigh (unit : Nat) : Prop := 0xD800 ≤ unit ∧ unit < 0xDC00

/-- The unit is the second half of a surrogate pair. -/
def IsLow (unit : Nat) : Prop := 0xDC00 ≤ unit ∧ unit < 0xE000

instance (unit : Nat) : Decidable (IsHigh unit) := inferInstanceAs (Decidable (_ ∧ _))

instance (unit : Nat) : Decidable (IsLow unit) := inferInstanceAs (Decidable (_ ∧ _))

/-- The text that the pieces stand for, if surrogates stand in pairs only. -/
def unescape? : List Piece → Option (List Char)
  | [] => some []
  | .char c :: pieces => (unescape? pieces).map (c :: ·)
  | .unit unit :: pieces =>
    if IsLow unit then none
    else if IsHigh unit then
      match pieces with
      | .unit low :: pieces =>
        if IsLow low then
          (unescape? pieces).map
            (Char.ofNat (0x10000 + (unit - 0xD800) * 0x400 + (low - 0xDC00)) :: ·)
        else none
      | _ => none
    else (unescape? pieces).map (Char.ofNat unit :: ·)

/-! ## Numbers -/

/-- The text is one or more digits. -/
def Digits (text : List Char) : Prop :=
  text ≠ [] ∧ ∀ c ∈ text, c.isDigit

/-- Digits without a leading zero, or zero itself. -/
def IsWhole (text : List Char) : Prop :=
  Digits text ∧ (text.head? = some '0' → text = ['0'])

/-- A point and digits, or nothing. -/
def IsFraction (text : List Char) : Prop :=
  text = [] ∨ ∃ digits, Digits digits ∧ text = '.' :: digits

/-- The letter of an exponent, perhaps a sign, and digits, or nothing. -/
def IsExponent (text : List Char) : Prop :=
  text = [] ∨ ∃ letter sign digits, (letter = 'e' ∨ letter = 'E') ∧
    (sign = [] ∨ sign = ['+'] ∨ sign = ['-']) ∧ Digits digits ∧
    text = letter :: (sign ++ digits)

/-- How a number is written. -/
def IsNumber (text : List Char) : Prop :=
  ∃ sign whole fraction exponent, (sign = [] ∨ sign = ['-']) ∧ IsWhole whole ∧
    IsFraction fraction ∧ IsExponent exponent ∧ text = sign ++ (whole ++ (fraction ++ exponent))

/-! ## Sequences between brackets -/

section
variable {α : Type} (Item : α → List Char → Prop) (close : Char)

/-- What follows an item: more items, each behind a comma, and the closing bracket. -/
inductive Tail : List α → List Char → Prop where
  | close {space : List Char} (hspace : Spaces space) : Tail [] (space ++ [close])
  | item {space space' written rest : List Char} {x : α} {xs : List α}
      (hspace : Spaces space) (hspace' : Spaces space') (hitem : Item x written)
      (htail : Tail xs rest) :
      Tail (x :: xs) (space ++ ',' :: (space' ++ (written ++ rest)))

/-- What follows an opening bracket: items with commas between them, and the closing
    bracket. -/
inductive Body : List α → List Char → Prop where
  | empty {space : List Char} (hspace : Spaces space) : Body [] (space ++ [close])
  | items {space written rest : List Char} {x : α} {xs : List α} (hspace : Spaces space)
      (hitem : Item x written) (htail : Tail Item close xs rest) :
      Body (x :: xs) (space ++ (written ++ rest))

end

/-! ## Values -/

/-- A value. -/
inductive Value where
  | null
  | boolean (value : Bool)
  | number (written : List Char)
  | string (pieces : List Piece)
  | list (elements : List Value)
  | object (members : List (List Piece × Value))

/-- A member of an object: its name and its value. -/
abbrev Member := List Piece × Value

mutual

/-- How a value is written. -/
inductive IsValue : Value → List Char → Prop where
  | null : IsValue .null ['n', 'u', 'l', 'l']
  | true : IsValue (.boolean true) ['t', 'r', 'u', 'e']
  | false : IsValue (.boolean false) ['f', 'a', 'l', 's', 'e']
  | number {written : List Char} (hnumber : IsNumber written) :
      IsValue (.number written) written
  | string {pieces : List Piece} {written : List Char} (hpieces : IsPieces pieces written) :
      IsValue (.string pieces) ('"' :: (written ++ ['"']))
  | list {elements : List Value} {body : List Char} (hbody : Body IsValue ']' elements body) :
      IsValue (.list elements) ('[' :: body)
  | object {members : List Member} {body : List Char}
      (hbody : Body IsMember '\x7d' members body) :
      IsValue (.object members) ('\x7b' :: body)

/-- How a member is written. -/
inductive IsMember : Member → List Char → Prop where
  | colon {pieces : List Piece} {value : Value} {name space space' written : List Char}
      (hname : IsPieces pieces name) (hspace : Spaces space) (hspace' : Spaces space')
      (hvalue : IsValue value written) :
      IsMember (pieces, value) ('"' :: (name ++ '"' :: (space ++ ':' :: (space' ++ written))))

end

/-- How a document is written: a value with white space around it. -/
def IsDocument (value : Value) (text : List Char) : Prop :=
  ∃ before written after, Spaces before ∧ IsValue value written ∧ Spaces after ∧
    text = before ++ (written ++ after)

end TestCoverage.Json
