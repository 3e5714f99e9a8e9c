/-
  TestCoverage.Filter.Items

  Items that a text lists, and the calls that they are handed over to.
-/
import TestCoverage.Filter.Arguments
import TestCoverage.Filter.Lines

namespace TestCoverage.Filter

/-! ## Items -/

/-- How far items have been told apart: the one that is being read, and those before it, both
    with what came last first. -/
structure ItemScan where
  quote : Option Char := none
  escaped : Bool := false
  current : Option (List Char) := none
  items : List (List Char) := []
deriving DecidableEq, Repr

namespace ItemScan

/-- Takes a character into the item that is being read. -/
def keep (scan : ItemScan) (c : Char) : ItemScan :=
  { scan with escaped := false, current := some (c :: scan.current.getD []) }

/-- Ends the item that is being read, if there is one. -/
def close (scan : ItemScan) : ItemScan :=
  match scan.current with
  | some item => { scan with current := none, items := item.reverse :: scan.items }
  | none => scan

/-- Reads a character.  Blanks end items, unless items are whole lines. -/
def step (byLine : Bool) (scan : ItemScan) (c : Char) : ItemScan :=
  if scan.escaped then scan.keep c
  else
    match scan.quote with
    | some quote => if c = quote then { scan with quote := none } else scan.keep c
    | none =>
      if c = '\u0027' ∨ c = '"' then
        { scan with quote := some c, current := some (scan.current.getD []) }
      else if c = '\\' then { scan with escaped := true }
      else if c = '\n' then scan.close
      else if c = ' ' ∨ c = '\t' then
        if byLine then (if scan.current.isNone then scan else scan.keep c) else scan.close
      else scan.keep c

end ItemScan

/-- The items of a text, which white space separates.  Quotes and backslashes take its
    meaning away.  The quote is told if one has no end. -/
def itemsOf (byLine : Bool) (text : List Char) : Except Char (List (List Char)) :=
  let scan := text.foldl (ItemScan.step byLine) {}
  match scan.quote with
  | some quote => .error quote
  | none => .ok scan.close.items.reverse

/-- The items of a text, each of which a character ends. -/
def itemsEndedBy (mark : Char) (text : List Char) : List (List Char) :=
  let scan := text.foldl (fun (scan : ItemScan) c =>
    if c = mark then ({ scan with current := some (scan.current.getD []) }).close
    else scan.keep c) {}
  scan.close.items.reverse

example : (itemsOf false "a 'b c'\n\\ d".toList).toOption =
    some [['a'], "b c".toList, " d".toList] := by decide +kernel
example : (itemsOf true " a b\n\nc".toList).toOption = some ["a b".toList, ['c']] := by
  decide +kernel
example : itemsEndedBy '\x00' "a\x00\x00b".toList = [['a'], [], ['b']] := by decide +kernel

/-! ## Calls -/

/-- The text with another in place of each occurrence of a text.  So many characters at its
    beginning are left out. -/
def replaceAll (old new : List Char) : Nat → List Char → List Char
  | _, [] => []
  | skipped + 1, _ :: rest => replaceAll old new skipped rest
  | 0, c :: rest =>
    if !old.isEmpty && old.isPrefixOf (c :: rest) then
      new ++ replaceAll old new (old.length - 1) rest
    else c :: replaceAll old new 0 rest

/-- What is to be done with items. -/
structure ItemUse where
  /-- the program and its first arguments -/
  call : List (List Char) := ["echo".toList]
  /-- the text that an item replaces -/
  replaced : Option (List Char) := none
  /-- how many items there are at most for one call -/
  size : Option Nat := none
  /-- nothing is called if there are no items -/
  needsItems : Bool := false

/-- The calls for items. -/
def ItemUse.calls (use : ItemUse) (items : List (List Char)) : List (List (List Char)) :=
  match use.replaced, use.size with
  | some old, _ => items.map fun item => use.call.map (replaceAll old item 0)
  | none, some size =>
    if items.isEmpty then (if use.needsItems then [] else [use.call])
    else (chunks size items.length items).map (use.call ++ ·)
  | none, none => if items.isEmpty ∧ use.needsItems then [] else [use.call ++ items]

example : ({ size := some 2 } : ItemUse).calls [['a'], ['b'], ['c']] =
    [["echo".toList, ['a'], ['b']], ["echo".toList, ['c']]] := by decide +kernel
example : ({ call := [['p'], "<%>".toList], replaced := some "%".toList } : ItemUse).calls
      [['a']] = [[['p'], "<a>".toList]] := by decide +kernel

end TestCoverage.Filter
