/-
  TestCoverage.Filter.Difference

  What has to be deleted from one sequence and inserted to get another one.

  Two searches, one from the beginning and one from the end, go on by one step at a time until
  they meet; the sequences are then split where they have met.  A diagonal holds the points
  whose distances from the beginnings of the two sequences differ by its number.
-/
import TestCoverage.Text.Pieces

namespace TestCoverage.Filter

/-! ## Searching for what is common -/

/-- A part of each of two sequences. -/
structure Window where
  /-- the part of the old sequence -/
  left : Nat
  right : Nat
  /-- the part of the new sequence -/
  top : Nat
  bottom : Nat

namespace Window

/-- The lowest diagonal. -/
def lowest (window : Window) : Int :=
  (window.left : Int) - window.bottom

/-- The highest diagonal. -/
def highest (window : Window) : Int :=
  (window.right : Int) - window.top

/-- The window without what is common at its beginning.  So many items are looked at. -/
def dropCommonStart (same : Nat → Nat → Bool) : Nat → Window → Window
  | 0, window => window
  | bound + 1, window =>
    if window.left < window.right ∧ window.top < window.bottom ∧ same window.left window.top then
      dropCommonStart same bound { window with left := window.left + 1, top := window.top + 1 }
    else window

/-- The window without what is common at its end.  So many items are looked at. -/
def dropCommonEnd (same : Nat → Nat → Bool) : Nat → Window → Window
  | 0, window => window
  | bound + 1, window =>
    if window.left < window.right ∧ window.top < window.bottom
        ∧ same (window.right - 1) (window.bottom - 1) then
      dropCommonEnd same bound
        { window with right := window.right - 1, bottom := window.bottom - 1 }
    else window

/-- How many items there are in a window. -/
def size (window : Window) : Nat :=
  (window.right - window.left) + (window.bottom - window.top)

end Window

/-- How far a search has come in the old sequence, on each diagonal between two of them. -/
structure Frontier where
  low : Int
  high : Int
  /-- the diagonal of the first item of the list -/
  origin : Int
  reached : Array Int

namespace Frontier

/-- How far the search has come on a diagonal. -/
def at' (frontier : Frontier) (diagonal : Int) : Int :=
  frontier.reached.getD (diagonal - frontier.origin).toNat 0

/-- The search has come so far on a diagonal. -/
def set (frontier : Frontier) (diagonal place : Int) : Frontier :=
  { frontier with
    reached := frontier.reached.setIfInBounds (diagonal - frontier.origin).toNat place }

/-- A search that starts on a diagonal. -/
def start (window : Window) (diagonal place : Int) : Frontier :=
  let origin := window.lowest - 1
  let frontier : Frontier := {
    low := diagonal, high := diagonal, origin
    reached := Array.replicate (window.highest - origin + 2).toNat 0 }
  frontier.set diagonal place

/-- One more diagonal on each side, as far as the window goes, with a place on the diagonals
    beyond that nothing comes from. -/
def widen (frontier : Frontier) (window : Window) (nowhere : Int) : Frontier :=
  let frontier :=
    if window.lowest < frontier.low then
      { frontier.set (frontier.low - 2) nowhere with low := frontier.low - 1 }
    else { frontier with low := frontier.low + 1 }
  if frontier.high < window.highest then
    { frontier.set (frontier.high + 2) nowhere with high := frontier.high + 1 }
  else { frontier with high := frontier.high - 1 }

end Frontier

/-- A search meets another one, or goes on. -/
inductive Advance where
  | met (old new : Nat)
  | going (frontier : Frontier)

/-- Takes a step from the beginning, on every other diagonal from the given one down, so many
    in all.  The other search is met only if it can be. -/
def stepForwards (window : Window) (same : Nat → Nat → Bool) (meets : Bool) (other : Frontier) :
    Nat → Int → Frontier → Advance
  | 0, _, frontier => .going frontier
  | count + 1, diagonal, frontier =>
    let below := frontier.at' (diagonal - 1)
    let above := frontier.at' (diagonal + 1)
    let place := if below < above then above else below + 1
    let walk : Window := { window with
      left := place.toNat, top := (place - diagonal).toNat }
    let walk := if 0 ≤ place - diagonal then walk.dropCommonStart same walk.size else walk
    let frontier := frontier.set diagonal walk.left
    if meets ∧ other.low ≤ diagonal ∧ diagonal ≤ other.high
        ∧ other.at' diagonal ≤ walk.left then
      .met walk.left walk.top
    else stepForwards window same meets other count (diagonal - 2) frontier

/-- Takes a step from the end. -/
def stepBackwards (window : Window) (same : Nat → Nat → Bool) (meets : Bool)
    (other : Frontier) : Nat → Int → Frontier → Advance
  | 0, _, frontier => .going frontier
  | count + 1, diagonal, frontier =>
    let below := frontier.at' (diagonal - 1)
    let above := frontier.at' (diagonal + 1)
    let place := if below < above then below else above - 1
    let walk : Window := { window with
      right := place.toNat, bottom := (place - diagonal).toNat }
    let walk := walk.dropCommonEnd same walk.size
    let frontier := frontier.set diagonal walk.right
    if meets ∧ other.low ≤ diagonal ∧ diagonal ≤ other.high
        ∧ (walk.right : Int) ≤ other.at' diagonal then
      .met walk.right walk.bottom
    else stepBackwards window same meets other count (diagonal - 2) frontier

/-- How many diagonals a step of a search goes through. -/
def Frontier.count (frontier : Frontier) : Nat :=
  ((frontier.high - frontier.low) / 2 + 1).toNat

/-- Lets two searches take steps in turn until they meet.  So many steps are enough. -/
def meeting (window : Window) (same : Nat → Nat → Bool) :
    Nat → Frontier → Frontier → Nat × Nat
  | 0, _, _ => (window.left, window.bottom)
  | bound + 1, ahead, behind =>
    let first := (window.left : Int) - window.top
    let last := (window.right : Int) - window.bottom
    let odd := (first - last) % 2 != 0
    let ahead := ahead.widen window (-1)
    match stepForwards window same odd behind ahead.count ahead.high ahead with
    | .met old new => (old, new)
    | .going ahead =>
      let behind := behind.widen window (window.right + window.bottom + 1)
      match stepBackwards window same (!odd) ahead behind.count behind.high behind with
      | .met old new => (old, new)
      | .going behind => meeting window same bound ahead behind

/-- What is to be deleted and what is to be inserted. -/
structure Marks where
  deleted : Array Bool
  inserted : Array Bool

/-- Marks all that is to be deleted and inserted in a window.  The bound is its size and one
    more. -/
def compareWindow (same : Nat → Nat → Bool) : Nat → Window → Marks → Marks
  | 0, _, marks => marks
  | bound + 1, window, marks =>
    let window := window.dropCommonStart same window.size
    let window := window.dropCommonEnd same window.size
    if window.left = window.right ∨ window.top = window.bottom then
      { deleted := (List.range' window.left (window.right - window.left)).foldl
          (fun flags i => flags.setIfInBounds i true) marks.deleted
        inserted := (List.range' window.top (window.bottom - window.top)).foldl
          (fun flags i => flags.setIfInBounds i true) marks.inserted }
    else
      let ahead := Frontier.start window ((window.left : Int) - window.top) window.left
      let behind := Frontier.start window ((window.right : Int) - window.bottom) window.right
      let (old, new) := meeting window same (window.size + 1) ahead behind
      let marks := compareWindow same bound { window with right := old, bottom := new } marks
      compareWindow same bound { window with left := old, top := new } marks

/-- What is to be deleted and inserted.  Items that the other sequence does not have at all are
    left out of the search. -/
def marksOf (old new : Array (List Char)) : Marks :=
  let kept (items others : Array (List Char)) : Array Nat :=
    ((List.range items.size).filter fun i => others.contains (items.getD i [])).toArray
  let olds := kept old new
  let news := kept new old
  let same (i j : Nat) : Bool :=
    old.getD (olds.getD i 0) [] == new.getD (news.getD j 0) []
  let found := compareWindow same (olds.size + news.size + 1) ⟨0, olds.size, 0, news.size⟩
    ⟨Array.replicate olds.size false, Array.replicate news.size false⟩
  let spread (size : Nat) (places : Array Nat) (flags : Array Bool) : Array Bool :=
    (List.range places.size).foldl (fun all i =>
      all.setIfInBounds (places.getD i 0) (flags.getD i false)) (Array.replicate size true)
  ⟨spread old.size olds found.deleted, spread new.size news found.inserted⟩

/-! ## Moving changes -/

/-- The flags of a sequence and of the other one, and where a run of changes is. -/
structure Slide where
  changed : Array Bool
  other : Array Bool
  /-- where the run begins -/
  start : Nat := 0
  /-- where it ends -/
  finish : Nat := 0
  /-- what corresponds to its end in the other sequence -/
  across : Nat := 0
  /-- the last end of the run at which something has changed in the other sequence too -/
  matching : Nat := 0

namespace Slide

/-- An item before the given place is changed. -/
def isChangedBefore (flags : Array Bool) (place : Nat) : Bool :=
  0 < place && flags.getD (place - 1) false

/-- The place behind all changes that begin at a place. -/
def behindChanges (flags : Array Bool) : Nat → Nat → Nat
  | 0, place => place
  | bound + 1, place =>
    if flags.getD place false then behindChanges flags bound (place + 1) else place

/-- The place before all changes that end at a place. -/
def beforeChanges (flags : Array Bool) : Nat → Nat → Nat
  | 0, place => place
  | bound + 1, place =>
    if isChangedBefore flags place then beforeChanges flags bound (place - 1) else place

/-- Moves the run back by one item. -/
def moveBack (slide : Slide) : Slide :=
  let start := slide.start - 1
  let finish := slide.finish - 1
  { slide with
    changed := (slide.changed.setIfInBounds start true).setIfInBounds finish false
    start, finish
    across := beforeChanges slide.other slide.other.size slide.across - 1 }

/-- Moves the run back as long as it can be, joining it to the runs before it. -/
def allBack (items : Array (List Char)) : Nat → Slide → Slide
  | 0, slide => slide
  | bound + 1, slide =>
    if 0 < slide.start ∧ items.getD (slide.start - 1) [] = items.getD (slide.finish - 1) [] then
      let moved := slide.moveBack
      allBack items bound
        { moved with start := beforeChanges moved.changed moved.changed.size moved.start }
    else slide

/-- Moves the run on as long as it can be, joining it to the runs behind it. -/
def allOn (items : Array (List Char)) : Nat → Slide → Slide
  | 0, slide => slide
  | bound + 1, slide =>
    if slide.finish < items.size ∧ items.getD slide.start [] = items.getD slide.finish [] then
      let changed := (slide.changed.setIfInBounds slide.start false).setIfInBounds
        slide.finish true
      let finish := behindChanges changed changed.size (slide.finish + 1)
      let across := behindChanges slide.other slide.other.size (slide.across + 1)
      let matching := if slide.across + 1 < across then finish else slide.matching
      allOn items bound { slide with changed, start := slide.start + 1, finish, across, matching }
    else slide

/-- Moves the run back and on until it does not grow any more. -/
def settle (items : Array (List Char)) : Nat → Slide → Slide
  | 0, slide => slide
  | bound + 1, slide =>
    let length := slide.finish - slide.start
    let slide := allBack items items.size slide
    let slide := { slide with
      matching := if isChangedBefore slide.other slide.across then slide.finish else items.size }
    let slide := allOn items items.size slide
    if slide.finish - slide.start = length then slide else settle items bound slide

/-- Moves the run back to where something has changed in the other sequence too. -/
def backToMatch : Nat → Slide → Slide
  | 0, slide => slide
  | bound + 1, slide =>
    if slide.matching < slide.finish then backToMatch bound slide.moveBack else slide

/-- Moves all runs from a place on. -/
def all (items : Array (List Char)) : Nat → Slide → Slide
  | 0, slide => slide
  | bound + 1, slide =>
    let place := slide.finish
    if items.size ≤ place then slide
    else if slide.changed.getD place false then
      let slide := { slide with
        start := place
        finish := behindChanges slide.changed slide.changed.size place
        across := behindChanges slide.other slide.other.size slide.across }
      all items bound (backToMatch items.size (settle items items.size slide))
    else
      all items bound { slide with
        finish := place + 1
        across := behindChanges slide.other slide.other.size slide.across + 1 }

end Slide

/-- The marks with runs of changes moved to where they are shown. -/
def Marks.moved (marks : Marks) (old new : Array (List Char)) : Marks :=
  let first := Slide.all old (2 * old.size + 1)
    { changed := marks.deleted, other := marks.inserted }
  let second := Slide.all new (2 * new.size + 1)
    { changed := first.other, other := first.changed }
  ⟨second.other, second.changed⟩

/-! ## Changes -/

/-- Items of the old sequence that are replaced by items of the new one. -/
structure Change where
  old : Nat
  deleted : Nat
  new : Nat
  inserted : Nat
deriving DecidableEq, Repr

/-- The changes from given places on. -/
def changesFrom (marks : Marks) : Nat → Nat → Nat → List Change
  | 0, _, _ => []
  | bound + 1, old, new =>
    if marks.deleted.size ≤ old ∧ marks.inserted.size ≤ new then []
    else
      let oldEnd := Slide.behindChanges marks.deleted marks.deleted.size old
      let newEnd := Slide.behindChanges marks.inserted marks.inserted.size new
      if oldEnd = old ∧ newEnd = new then changesFrom marks bound (old + 1) (new + 1)
      else ⟨old, oldEnd - old, new, newEnd - new⟩ :: changesFrom marks bound oldEnd newEnd

/-- How many items two lists have in common at their beginning. -/
def commonStart : List (List Char) → List (List Char) → Nat
  | a :: old, b :: new => if a = b then commonStart old new + 1 else 0
  | _, _ => 0

/-- What has to be changed in a list to get another one, if items are compared by a key.  What
    is the same at the beginnings and the ends is not looked at, but for so many items. -/
def changes (key : List Char → List Char) (around : Nat) (old new : List (List Char)) :
    List Change :=
  let before := commonStart old new - around
  let old := old.drop before
  let new := new.drop before
  let behind := commonStart old.reverse new.reverse - around
  let old := ((old.take (old.length - behind)).map key).toArray
  let new := ((new.take (new.length - behind)).map key).toArray
  let marks := (marksOf old new).moved old new
  (changesFrom marks (old.size + new.size + 1) 0 0).map fun change =>
    { change with old := change.old + before, new := change.new + before }

example : changes id 0 [['a'], ['b'], ['c']] [['a'], ['c'], ['d']] =
    [⟨1, 1, 1, 0⟩, ⟨3, 0, 2, 1⟩] := by decide +kernel
example : changes id 0 [['a'], ['b']] [['a'], ['b']] = [] := by decide +kernel

end TestCoverage.Filter
