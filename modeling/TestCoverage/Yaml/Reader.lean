/-
  TestCoverage.Yaml.Reader

  The nodes of a YAML document, put together from its tokens.

  A node with an anchor can be used again by its name, but only behind its end.  A map may
  not have a key twice; still the whole text is read, for a fault in its tokens goes first.
-/
import TestCoverage.Yaml.Node
import TestCoverage.Yaml.Scanner

namespace TestCoverage.Yaml

/-! ## State -/

/-- How far a document has been read: the token at hand, the names with the numbers of their
    nodes, the finished nodes with numbers, what the handles of tags stand for, and the first
    key that a map has twice.  `limit` is a number that no document of its length has more
    tokens than. -/
structure Progress where
  scanner : Scanner
  limit : Nat
  token : Option Token := none
  names : List (List Char × Nat) := []
  nodes : List (Nat × Node) := []
  count : Nat := 0
  handles : List (List Char × List Char) := []
  repeated : Option Fault := none

/-- A node, and the place where it is known to be complete. -/
structure Placed where
  node : Node
  mark : Mark

/-- A step of putting nodes together. -/
abbrev Build := StateT Progress (Except Fault)

/-- A reader of nodes: whether blocks may stand here, and lists without a column of their
    own. -/
abbrev NodeReader := Bool → Bool → Build Placed

namespace Build

/-- The next token. -/
def peek : Build Token := do
  let progress ← get
  match progress.token with
  | some token => return token
  | none =>
    let (token, scanner) ← Scan.take.run progress.scanner
    set { progress with scanner, token := some token }
    return token

/-- Passes over the token at hand. -/
def skip : Build Unit :=
  modify fun progress => { progress with token := none }

/-- The next token is of one of the kinds. -/
def isAt (kinds : List Kind) : Build Bool :=
  return kinds.contains (← peek).kind

/-- A missing node, at the next token. -/
def missing : Build Placed :=
  return ⟨.null, (← peek).mark⟩

/-- Reads a node, or a missing one before one of the kinds. -/
def nodeUnless (kinds : List Kind) (read : Build Placed) : Build Placed := do
  if ← isAt kinds then missing else read

/-! ## Anchors and tags -/

/-- Gives a node that is to come a name and a number. -/
def register (name : List Char) : Build Nat := do
  modify fun progress => { progress with
    names := (name, progress.count + 1) :: progress.names, count := progress.count + 1 }
  return (← get).count

/-- The beginning of an address that the handle of a tag stands for, with the rest. -/
def resolveTag (mark : Mark) (handle name : List Char) : Build (List Char × List Char) := do
  match (← get).handles.lookup handle with
  | some text => return (text, name)
  | none =>
    if handle = ['!', '!'] then return (commonTag, name)
    else if 2 ≤ handle.length then throw ⟨mark, "the handle wasn't declared"⟩
    else return (handle, name)

/-- Reads the anchor and the tag in front of a node, in either order. -/
def readProperties : Build (Option Nat × Option (List Char × List Char)) := do
  let token ← peek
  match token.kind with
  | .anchor name =>
    skip
    let number ← register name
    match (← peek).kind with
    | .tag handle name =>
      skip
      return (some number, some (← resolveTag token.mark handle name))
    | _ => return (some number, none)
  | .tag handle name =>
    skip
    let tag ← resolveTag token.mark handle name
    match (← peek).kind with
    | .anchor name =>
      skip
      return (some (← register name), some tag)
    | _ => return (none, some tag)
  | _ => return (none, none)

/-! ## Lists -/

/-- Reads the elements of a block.  Their number is bounded. -/
def blockElements (read : NodeReader) : Nat → List Node → Build Placed
  | 0, elements => return ⟨.list elements.reverse, (← peek).mark⟩
  | bound + 1, elements => do
    let token ← peek
    if token.kind = .blockEnd then
      skip
      return ⟨.list elements.reverse, token.mark⟩
    else if token.kind = .blockEntry then
      skip
      let element ← nodeUnless [.blockEntry, .blockEnd] (read true false)
      blockElements read bound (element.node :: elements)
    else
      throw ⟨token.mark,
        "while parsing a block collection, did not find expected '-' indicator"⟩

/-- Reads the elements of a list that has the column of its key.  Their number is bounded. -/
def looseElements (read : NodeReader) : Nat → List Node → Build Placed
  | 0, elements => return ⟨.list elements.reverse, (← peek).mark⟩
  | bound + 1, elements => do
    let token ← peek
    if token.kind = .blockEntry then
      skip
      let element ← nodeUnless [.blockEntry, .key, .value, .blockEnd] (read true false)
      looseElements read bound (element.node :: elements)
    else return ⟨.list elements.reverse, token.mark⟩

/-! ## Maps -/

/-- A map while it is read: the key that waits for its value, and the entries. -/
structure Draft where
  key : Option Node := none
  entries : List (Node × Node) := []

/-- The map with its next key or value.  A key without a value of its own is replaced by what
    follows it. -/
def Draft.add (draft : Draft) (next : Placed) : Build Draft :=
  match draft.key, next.node with
  | none, .invalid => return draft
  | none, key => return { draft with key := some key }
  | some key, value => do
    if draft.entries.any fun entry => entry.1.isSame key then
      let fault := ⟨next.mark, s!"{key.show}: duplicated key in mapping"⟩
      modify fun progress => { progress with repeated := progress.repeated.or (some fault) }
    return { entries := (key, value) :: draft.entries }

/-- The finished map. -/
def Draft.finish (draft : Draft) (mark : Mark) : Placed :=
  ⟨.map draft.entries.reverse, mark⟩

/-- Reads the value of a key in a block. -/
def blockValueNode (read : NodeReader) : Build Placed := do
  if ← isAt [.value] then
    skip
    nodeUnless [.key, .value, .blockEnd] (read true true)
  else missing

/-- Reads the keys and values of a block in turn.  Their number is bounded. -/
def blockEntries (read : NodeReader) : Nat → Draft → Build Placed
  | 0, draft => return draft.finish (← peek).mark
  | bound + 1, draft => do
    let token ← peek
    if token.kind = .blockEnd then
      skip
      return draft.finish token.mark
    else if token.kind = .key ∨ token.kind = .value then
      let key ← if token.kind = .key then do
          skip
          nodeUnless [.key, .value, .blockEnd] (read true true)
        else missing
      let draft ← draft.add key
      let draft ← draft.add (← blockValueNode read)
      blockEntries read bound draft
    else
      throw ⟨token.mark, "while parsing a block mapping, did not find expected key"⟩

/-- Reads the value of a key in braces. -/
def flowValueNode (read : NodeReader) : Build Placed := do
  let token ← peek
  if token.kind = .value then
    skip
    if ← isAt [.flowEntry, .flowMappingEnd] then return ⟨.null, token.mark⟩
    else read false false
  else missing

/-- Reads an entry in braces; an entry may lack its key or its value. -/
def flowEntryNodes (read : NodeReader) (draft : Draft) : Build Draft := do
  let token ← peek
  if token.kind = .key then
    skip
    let key ← nodeUnless [.value, .flowEntry, .flowMappingEnd] (read false false)
    let draft ← draft.add key
    draft.add (← flowValueNode read)
  else if token.kind = .value then
    let draft ← draft.add (← missing)
    draft.add (← flowValueNode read)
  else
    let draft ← draft.add (← read false false)
    draft.add (← missing)

/-- Reads the keys and values in braces in turn.  Their number is bounded. -/
def flowEntries (read : NodeReader) : Nat → Bool → Draft → Build Placed
  | 0, _, draft => return draft.finish (← peek).mark
  | bound + 1, isFirst, draft => do
    let token ← peek
    if token.kind = .flowMappingEnd then
      skip
      return draft.finish token.mark
    if ¬ isFirst then
      if token.kind = .flowEntry then skip
      else throw ⟨token.mark, "while parsing a flow mapping, did not find expected ',' or '\x7d'"⟩
    if ← isAt [.flowMappingEnd] then
      skip
      return draft.finish token.mark
    flowEntries read bound false (← flowEntryNodes read draft)

/-- Reads an element in brackets that is a map of one entry, from behind the mark of its key
    on.  A token that stands in the place of the key is lost. -/
def flowPair (read : NodeReader) : Build Placed := do
  let token ← peek
  let isMissing ← isAt [.value, .flowEntry, .flowSequenceEnd]
  if isMissing then skip
  let key ← if isMissing then pure ⟨.null, token.mark⟩ else read false false
  let draft ← Draft.add {} key
  let value ← if ← isAt [.value] then do
      skip
      nodeUnless [.flowEntry, .flowSequenceEnd] (read false false)
    else missing
  let draft ← draft.add value
  return draft.finish value.mark

/-- Reads the elements in brackets.  A key makes an element a map of one entry.  Their number
    is bounded. -/
def flowElements (read : NodeReader) : Nat → Bool → List Node → Build Placed
  | 0, _, elements => return ⟨.list elements.reverse, (← peek).mark⟩
  | bound + 1, isFirst, elements => do
    let token ← peek
    if token.kind = .flowSequenceEnd then
      skip
      return ⟨.list elements.reverse, token.mark⟩
    if ¬ isFirst then
      if token.kind = .flowEntry then skip
      else throw ⟨token.mark, "while parsing a flow sequence, expected ',' or ']'"⟩
    let token ← peek
    if token.kind = .flowSequenceEnd then
      skip
      return ⟨.list elements.reverse, token.mark⟩
    else if token.kind = .key then
      skip
      let element ← flowPair read
      flowElements read bound false (element.node :: elements)
    else
      let element ← read false false
      flowElements read bound false (element.node :: elements)

/-! ## Nodes -/

/-- Reads a node behind its anchor and its tag. -/
def readContent (read : NodeReader) (tag : Option (List Char × List Char))
    (isMarked isBlock isLoose : Bool) : Build Placed := do
  let token ← peek
  let bound := (← get).limit
  if token.kind = .blockEntry ∧ isLoose then looseElements read bound []
  else match token.kind with
    | .scalar isPlain text =>
      skip
      return ⟨.ofScalar tag isPlain text, token.mark⟩
    | .flowSequenceStart =>
      skip
      flowElements read bound true []
    | .flowMappingStart =>
      skip
      flowEntries read bound true {}
    | kind =>
      if kind = .blockSequenceStart ∧ isBlock then
        skip
        blockElements read bound []
      else if kind = .blockMappingStart ∧ isBlock then
        skip
        blockEntries read bound {}
      else if isMarked then return ⟨.ofScalar tag true [], token.mark⟩
      else throw ⟨token.mark, "while parsing a node, did not find expected node content"⟩

/-- Reads a node in which others are nested to a given depth. -/
def readNode : Nat → NodeReader
  | 0, _, _ => do throw ⟨(← peek).mark, "recursion limit exceeded"⟩
  | depth + 1, isBlock, isLoose => do
    let token ← peek
    match token.kind with
    | .alias name =>
      skip
      let progress ← get
      match progress.names.lookup name with
      | none => throw ⟨token.mark, "while parsing node, found unknown anchor"⟩
      | some number => return ⟨(progress.nodes.lookup number).getD .invalid, token.mark⟩
    | _ =>
      let (number, tag) ← readProperties
      let placed ← readContent (readNode depth) tag (number.isSome || tag.isSome) isBlock isLoose
      match number with
      | some number =>
        modify fun progress => { progress with nodes := (number, placed.node) :: progress.nodes }
      | none => pure ()
      return placed

/-! ## Documents -/

/-- Passes over the marks that end a document.  Their number is bounded. -/
def skipEnds : Nat → Build Unit
  | 0 => return
  | bound + 1 => do
    if ← isAt [.documentEnd] then
      skip
      skipEnds bound

/-- Reads the lines that tell how to read the document.  What a line says about tags holds up
    to the next such line.  Their number is bounded. -/
def readDirectives : Nat → Bool → Build Unit
  | 0, _ => return
  | bound + 1, hasVersion => do
    let token ← peek
    match token.kind with
    | .version =>
      if hasVersion then throw ⟨token.mark, "duplicate version directive"⟩
      modify fun progress => { progress with handles := [] }
      skip
      readDirectives bound true
    | .tagPrefix handle text =>
      modify fun progress => { progress with handles := [(handle, text)] }
      skip
      readDirectives bound hasVersion
    | _ => return

/-- The token is a line that tells how to read the document. -/
def isDirective : Kind → Bool
  | .version | .tagPrefix _ _ => true
  | _ => false

/-- Reads the content of a document, which may be missing behind the mark that begins it. -/
def readDocument (isExplicit : Bool) : Build Node := do
  modify fun progress => { progress with names := [] }
  let kind := (← peek).kind
  let ends : List Kind := [.documentStart, .documentEnd, .streamEnd]
  if isExplicit ∧ (isDirective kind ∨ ends.contains kind) then return .null
  else return (← readNode (← get).limit true false).node

/-- Reads documents.  One that does not begin with a mark may follow only the beginning or
    the mark of an end.  Their number is bounded. -/
def readDocuments : Nat → Bool → Build (List Node)
  | 0, _ => return []
  | bound + 1, mayBeImplicit => do
    skipEnds (bound + 1)
    let token ← peek
    if token.kind = .streamEnd then return []
    else
      let isExplicit :=
        isDirective token.kind || token.kind == .documentStart || !mayBeImplicit
      if isExplicit then
        readDirectives (bound + 1) false
        let token ← peek
        if token.kind = .documentStart then skip
        else throw ⟨token.mark, "did not find expected <document start>"⟩
      let node ← readDocument isExplicit
      let hasEnd ← isAt [.documentEnd]
      if hasEnd then skip
      modify fun progress => { progress with handles := [] }
      if ¬ hasEnd then
        let token ← peek
        if isDirective token.kind then
          throw ⟨token.mark, "missing explicit document end marker before directive"⟩
      return node :: (← readDocuments bound hasEnd)

end Build

/-- The documents of a text.  Each character makes six tokens at the most. -/
def nodesOf (document : List Char) : Except Fault (List Node) := do
  let limit := 6 * (document.length + 2)
  let start : Progress := { scanner := Scanner.start document, limit }
  let (nodes, progress) ← (Build.readDocuments limit true).run start
  match progress.repeated with
  | some fault => throw fault
  | none => return nodes

end TestCoverage.Yaml
