import Manuscript.Yaml.Resolve
import Manuscript.Yaml.Scan

/-!
The tree of a YAML document, put together from tokens. Every node has a tag, written or read off its
text; an alias stands for a copy of the node with its anchor. No tree holds itself, so an alias
inside the node that it names is refused, which the language allows.
-/

namespace Manuscript.Yaml

/-- A node of a document. -/
inductive Tree where
  | scalar (tag text : String)
  | sequence (tag : String) (items : List Tree)
  | mapping (tag : String) (entries : List (Tree × Tree))
  deriving Inhabited

/-- The state of putting a tree together: the tokens left, the problem at their end, the anchors
seen with the nodes that are complete, and the expansions of tag handles. -/
structure Composer where
  tokens : List Token
  problem : Problem
  anchors : List (String × Option Tree) := []
  handles : List (String × String) := []

abbrev Composing := StateT Composer (Except Problem)

namespace Composing

def refuse : Composing α := throw .malformed

def peek : Composing Token := do
  let s ← get
  match s.tokens with
  | t :: _ => return t
  | [] => throw s.problem

def drop : Composing Unit := modify fun s => { s with tokens := s.tokens.drop 1 }

def nextIs (ts : List Token) : Composing Bool := do return ts.contains (← peek)

def accept (t : Token) : Composing Bool := do
  if (← peek) == t then drop; return true else return false

/-- Passes over the comma before an element of a flow collection; the first has none. -/
def comma (first : Bool) : Composing Unit :=
  if first then pure () else do if ← accept .flowEntry then pure () else refuse

/-- Remembers an anchor, which must be new. -/
def openAnchor (name : Option String) : Composing Unit :=
  match name with
  | none => pure ()
  | some n => do
    if ((← get).anchors.lookup n).isSome then refuse
    modify fun s => { s with anchors := (n, none) :: s.anchors }

/-- Ties a node to its anchor. -/
def closeAnchor (name : Option String) (node : Tree) : Composing Tree :=
  match name with
  | none => pure node
  | some n => do
    modify fun s => { s with anchors := (n, some node) :: s.anchors }
    return node

def aliased (name : String) : Composing Tree := do
  match (← get).anchors.lookup name with
  | some (some node) => return node
  | _ => refuse

/-- The anchor and the tag before a node, in either order. -/
def properties : Composing (Option String × Option TagParts) := do
  match ← peek with
  | .anchor name =>
    drop
    match ← peek with
    | .tag parts => drop; return (some name, some parts)
    | _ => return (some name, none)
  | .tag parts =>
    drop
    match ← peek with
    | .anchor name => drop; return (some name, some parts)
    | _ => return (none, some parts)
  | _ => return (none, none)

def fullTag (parts : Option TagParts) : Composing (Option String) :=
  match parts with
  | none => return none
  | some ⟨none, suffix⟩ => return some suffix
  | some ⟨some handle, suffix⟩ => do
    match (← get).handles.lookup handle with
    | some expansion => return some (expansion ++ suffix)
    | none => refuse

/-- The tag of a scalar. The mark `!` alone asks for the type of a plain scalar. -/
def scalarTag (tag : Option String) (plain : Bool) (text : String) : String :=
  match tag with
  | none => if plain then plainTag text else coreTag "str"
  | some "!" => plainTag text
  | some t => t

/-- The tag of a collection. -/
def collectionTag (tag : Option String) (usual : String) : String :=
  match tag with
  | none => coreTag usual
  | some "!" => coreTag usual
  | some t => t

def nothing : Tree := .scalar (coreTag "null") ""

mutual

/-- A node. Block collections are admitted where `block` says so; a sequence without indentation of
its own where `indentless` does. -/
def node : Nat → (block indentless : Bool) → Composing Tree
  | 0, _, _ => refuse
  | fuel + 1, block, indentless => do
    match ← peek with
    | .alias name => drop; aliased name
    | _ =>
      let (anchor, parts) ← properties
      let tag ← fullTag parts
      let first ← peek
      if indentless && first == .blockEntry then
        openAnchor anchor
        closeAnchor anchor (.sequence (collectionTag tag "seq") (← indentlessItems fuel))
      else match first with
        | .scalar text plain =>
          drop
          openAnchor anchor
          closeAnchor anchor (.scalar (scalarTag tag plain text) text)
        | .flowSequenceStart =>
          drop
          openAnchor anchor
          closeAnchor anchor (.sequence (collectionTag tag "seq") (← flowItems fuel true))
        | .flowMappingStart =>
          drop
          openAnchor anchor
          closeAnchor anchor (.mapping (collectionTag tag "map") (← flowEntries fuel true))
        | other =>
          if block && other == .blockSequenceStart then
            drop
            openAnchor anchor
            closeAnchor anchor (.sequence (collectionTag tag "seq") (← blockItems fuel))
          else if block && other == .blockMappingStart then
            drop
            openAnchor anchor
            closeAnchor anchor (.mapping (collectionTag tag "map") (← blockEntries fuel))
          else if anchor.isSome || tag.isSome then
            openAnchor anchor
            closeAnchor anchor (.scalar (scalarTag tag true "") "")
          else refuse

/-- A node, or nothing if one of the given tokens comes next. -/
def nodeUnless : Nat → List Token → (block indentless : Bool) → Composing Tree
  | 0, _, _, _ => refuse
  | fuel + 1, ends, block, indentless => do
    if ← nextIs ends then return nothing else node fuel block indentless

def blockItems : Nat → Composing (List Tree)
  | 0 => refuse
  | fuel + 1 => do
    if ← accept .blockEntry then
      let item ← nodeUnless fuel [.blockEntry, .blockEnd] true false
      return item :: (← blockItems fuel)
    else if ← accept .blockEnd then return []
    else refuse

/-- The items of a sequence that stands at the column of its key. -/
def indentlessItems : Nat → Composing (List Tree)
  | 0 => refuse
  | fuel + 1 => do
    if ← accept .blockEntry then
      let item ← nodeUnless fuel [.blockEntry, .key, .value, .blockEnd] true false
      return item :: (← indentlessItems fuel)
    else return []

def blockEntries : Nat → Composing (List (Tree × Tree))
  | 0 => refuse
  | fuel + 1 => do
    if ← accept .key then
      let key ← nodeUnless fuel [.key, .value, .blockEnd] true true
      let value ← blockValue fuel
      return (key, value) :: (← blockEntries fuel)
    else if ← accept .blockEnd then return []
    else refuse

/-- The value after a key of a block mapping. -/
def blockValue : Nat → Composing Tree
  | 0 => refuse
  | fuel + 1 => do
    if ← accept .value then nodeUnless fuel [.key, .value, .blockEnd] true true
    else return nothing

/-- The key and the value of a flow collection that ends with a token, after the mark of the key. -/
def flowPair : Nat → (close : Token) → Composing (Tree × Tree)
  | 0, _ => refuse
  | fuel + 1, close => do
    let key ← nodeUnless fuel [.value, .flowEntry, close] false false
    if ← accept .value then
      let value ← nodeUnless fuel [.flowEntry, close] false false
      return (key, value)
    else return (key, nothing)

/-- The items of a flow sequence; a key among them makes a mapping of one entry. -/
def flowItems : Nat → (first : Bool) → Composing (List Tree)
  | 0, _ => refuse
  | fuel + 1, first => do
    if ← accept .flowSequenceEnd then return []
    else
      comma first
      if ← accept .key then
        let entry ← flowPair fuel .flowSequenceEnd
        return .mapping (coreTag "map") [entry] :: (← flowItems fuel false)
      else if ← accept .flowSequenceEnd then return []
      else
        let item ← node fuel false false
        return item :: (← flowItems fuel false)

def flowEntries : Nat → (first : Bool) → Composing (List (Tree × Tree))
  | 0, _ => refuse
  | fuel + 1, first => do
    if ← accept .flowMappingEnd then return []
    else
      comma first
      if ← accept .key then
        let entry ← flowPair fuel .flowMappingEnd
        return entry :: (← flowEntries fuel false)
      else if ← accept .flowMappingEnd then return []
      else
        let key ← node fuel false false
        return (key, nothing) :: (← flowEntries fuel false)

end

/-! ### Documents -/

def usualHandles : List (String × String) := [("!", "!"), ("!!", "tag:yaml.org,2002:")]

/-- Reads directives: one version at most, of the first major version, and a handle once each. -/
def directives : Nat → Bool → List (String × String) → Composing (List (String × String))
  | 0, _, _ => refuse
  | fuel + 1, versionSeen, handles => do
    match ← peek with
    | .versionDirective major =>
      if versionSeen || major != 1 then refuse
      drop
      directives fuel true handles
    | .tagDirective handle expansion =>
      if (handles.lookup handle).isSome then refuse
      drop
      directives fuel versionSeen ((handle, expansion) :: handles)
    | .otherDirective => drop; directives fuel versionSeen handles
    | _ => return handles ++ usualHandles

def skipEnds : Nat → Composing Unit
  | 0 => refuse
  | fuel + 1 => do if ← accept .documentEnd then skipEnds fuel

def startsExplicitly : Composing Bool := do
  match ← peek with
  | .versionDirective _ | .tagDirective _ _ | .otherDirective | .documentStart => return true
  | _ => return false

def content (fuel : Nat) : Composing Tree := do
  match ← peek with
  | .versionDirective _ | .tagDirective _ _ | .otherDirective | .documentStart | .documentEnd
  | .streamEnd => return nothing
  | _ => node fuel true false

def setHandles (handles : List (String × String)) : Composing Unit :=
  modify fun s => { s with handles := handles }

def document (fuel : Nat) : Composing Tree := do
  if ← startsExplicitly then
    let handles ← directives fuel false []
    if ← accept .documentStart then
      setHandles handles
      content fuel
    else refuse
  else
    setHandles usualHandles
    node fuel true false

/-- The document of a text that holds one at most. -/
def singleDocument (fuel : Nat) : Composing (Option Tree) := do
  if (← peek) == .streamEnd then return none
  else
    let tree ← document fuel
    skipEnds fuel
    if (← peek) == .streamEnd then return some tree else refuse

end Composing

/-- The document of a text that holds one at most. -/
def compose (text : List Char) : Reading (Option Tree) :=
  let (tokens, problem) := scan text
  let start : Composer := { tokens := tokens, problem := problem.getD .malformed }
  (Composing.singleDocument (4 * tokens.length + 16) start).map Prod.fst

end Manuscript.Yaml
