import ImageCatalog.Yaml.Node
import ImageCatalog.Yaml.Token.Lexer

/-!
# From tokens to nodes

The one document of a text. Block collections, flow collections and single pairs in flow sequences
become sequences and mappings; what is left out becomes an empty scalar.

## Main definitions

* `Node.parse?` — the document of a text, with nodes in place of aliases.

## Implementation notes

Of three calls within each other one takes a token at least, so three times the number of tokens
bounds the depth of the recursion.
-/

namespace ImageCatalog.Yaml

/-- The state between two nodes. -/
structure Stream where
  tokens : List Token
  /-- The handles of tags, with what they stand for. -/
  handles : List (String × String)
  /-- The names of anchors with their numbers, each name once. -/
  names : List (String × Nat)
  /-- How many anchors there were. -/
  anchorCount : Nat
  /-- The anchor that a number stands for, latest first. -/
  owners : List (Nat × Nat)
  /-- The nodes of anchors. -/
  anchored : List (Nat × Node)

/-- Reads from a stream of tokens. -/
abbrev Parse := StateT Stream Option

namespace Parse

def refuse {α : Type} : Parse α :=
  fun _ => none

def peek : Parse (Option Token) := do
  return (← get).tokens.head?

def skip : Parse Unit :=
  modify fun s => { s with tokens := s.tokens.tail }

/-- Takes the next token if it is `t`. -/
def take (t : Token) : Parse Unit := do
  if (← peek) == some t then skip else refuse

/-! ### Anchors and tags -/

/-- The number of the next anchor of a name. It is the number of names so far, so a name that is
used again shares its number with the next new name. -/
def declare (name : String) : Parse Nat := do
  let s ← get
  let id := s.names.length
  let names :=
    if (s.names.lookup name).isSome then
      s.names.map fun (n, old) => if n = name then (n, id) else (n, old)
    else s.names ++ [(name, id)]
  set { s with
    names := names
    anchorCount := s.anchorCount + 1
    owners := (id, s.anchorCount) :: s.owners }
  return s.anchorCount

/-- The number that an alias stands for. -/
def idOf (name : String) : Parse Nat := do
  match (← get).names.lookup name with
  | some id => return id
  | none => refuse

/-- The full tag of a handle and a suffix. -/
def fullTag (handle suffix : String) : Parse String := do
  if handle.isEmpty then return suffix
  else
    match (← get).handles.lookup handle with
    | some full => return full ++ suffix
    | none => refuse

/-- The anchor and the tag in front of a node. -/
structure Properties where
  anchor : Option String
  tag : Option String

/-- Takes an anchor, if there is one. -/
def anchor? : Parse (Option String) := do
  match ← peek with
  | some (.anchor name) =>
    skip
    return some name
  | _ => return none

/-- Takes a tag, if there is one. -/
def tag? : Parse (Option String) := do
  match ← peek with
  | some (.tag handle suffix) =>
    skip
    return some (← fullTag handle suffix)
  | _ => return none

/-- Takes anchor and tag, in either order. -/
def properties : Parse Properties := do
  match ← anchor? with
  | some anchor => return ⟨some anchor, ← tag?⟩
  | none =>
    match ← tag? with
    | some tag => return ⟨← anchor?, some tag⟩
    | none => return ⟨none, none⟩

/-- The node that `read` gives, under an anchor if there is one. -/
def underAnchor (anchor : Option String) (read : Parse Node) : Parse Node := do
  match anchor with
  | none => read
  | some name =>
    let serial ← declare name
    let n ← read
    modify fun s => { s with anchored := (serial, n) :: s.anchored }
    return n

/-! ### Nodes -/

/-- The node of a scalar. The tag `!` says nothing. -/
def scalarNode (text : String) (isPlain : Bool) (tag : Option String) : Node :=
  .scalar ⟨text, isPlain, if tag = some "!" then none else tag⟩

/-- Whether a token ends an entry of a block mapping. -/
def endsBlockEntry (t : Option Token) : Bool :=
  t == none || t == some .key || t == some .value || t == some .blockEnd

/-- Whether a token ends an entry of a flow collection. -/
def endsFlowEntry (closing : Token) (t : Option Token) : Bool :=
  t == none || t == some .flowEntry || t == some closing

mutual

/-- A node. In a block mapping a sequence may start at the column of its key. -/
def node : (fuel : Nat) → (inBlock mayBeUnindented : Bool) → Parse Node
  | 0, _, _ => refuse
  | fuel + 1, inBlock, mayBeUnindented => do
    match ← peek with
    | some (.alias name) =>
      let id ← idOf name
      skip
      return .alias id
    | _ =>
      let ⟨anchor, tag⟩ ← properties
      underAnchor anchor (content fuel inBlock mayBeUnindented (anchor.isSome || tag.isSome) tag)

/-- What follows anchor and tag. Behind one of them it may be left out. -/
def content : (fuel : Nat) → (inBlock mayBeUnindented mayBeEmpty : Bool) → Option String →
    Parse Node
  | 0, _, _, _, _ => refuse
  | fuel + 1, inBlock, mayBeUnindented, mayBeEmpty, tag => do
    match ← peek with
    | some .blockEntry =>
      if mayBeUnindented then return .sequence tag (← unindentedItems fuel)
      else if mayBeEmpty then return .emptyScalar tag
      else refuse
    | some (.scalar text isPlain) =>
      skip
      return scalarNode text isPlain tag
    | some .flowSequenceStart =>
      skip
      return .sequence tag (← flowItems fuel true)
    | some .flowMappingStart =>
      skip
      return .mapping tag (← flowEntries fuel true)
    | some .blockSequenceStart =>
      if inBlock then
        skip
        return .sequence tag (← blockItems fuel)
      else if mayBeEmpty then return .emptyScalar tag
      else refuse
    | some .blockMappingStart =>
      if inBlock then
        skip
        return .mapping tag (← blockEntries fuel)
      else if mayBeEmpty then return .emptyScalar tag
      else refuse
    | _ => if mayBeEmpty then return .emptyScalar tag else refuse

/-- The items of a block sequence, up to its end. -/
def blockItems : (fuel : Nat) → Parse (List Node)
  | 0 => refuse
  | fuel + 1 => do
    match ← peek with
    | some .blockEntry =>
      skip
      let next ← peek
      let item ←
        if next == none || next == some .blockEntry || next == some .blockEnd then
          pure (Node.emptyScalar none)
        else node fuel true false
      return item :: (← blockItems fuel)
    | some .blockEnd =>
      skip
      return []
    | _ => refuse

/-- The items of a sequence at the column of its key. -/
def unindentedItems : (fuel : Nat) → Parse (List Node)
  | 0 => refuse
  | fuel + 1 => do
    match ← peek with
    | some .blockEntry =>
      skip
      let next ← peek
      let item ←
        if next == some .blockEntry || endsBlockEntry next then pure (Node.emptyScalar none)
        else node fuel true false
      return item :: (← unindentedItems fuel)
    | _ => return []

/-- The entries of a block mapping, up to its end. -/
def blockEntries : (fuel : Nat) → Parse (List (Node × Node))
  | 0 => refuse
  | fuel + 1 => do
    match ← peek with
    | some .key =>
      skip
      let key ←
        if endsBlockEntry (← peek) then pure (Node.emptyScalar none) else node fuel true true
      let value ← blockValue fuel
      return (key, value) :: (← blockEntries fuel)
    | some .blockEnd =>
      skip
      return []
    | _ => refuse

/-- The value of an entry of a block mapping. -/
def blockValue : (fuel : Nat) → Parse Node
  | 0 => refuse
  | fuel + 1 => do
    if (← peek) == some .value then
      skip
      if endsBlockEntry (← peek) then return .emptyScalar none else node fuel true true
    else return .emptyScalar none

/-- The items of a flow sequence, up to its end. -/
def flowItems : (fuel : Nat) → (isFirst : Bool) → Parse (List Node)
  | 0, _ => refuse
  | fuel + 1, isFirst => do
    if (← peek) == some .flowSequenceEnd then
      skip
      return []
    else
      if !isFirst then take .flowEntry
      match ← peek with
      | some .flowSequenceEnd =>
        skip
        return []
      | some .key =>
        skip
        let key ←
          if (← peek) == some .value || endsFlowEntry .flowSequenceEnd (← peek) then
            pure (Node.emptyScalar none)
          else node fuel false false
        let value ← flowValue fuel .flowSequenceEnd
        return .mapping none [(key, value)] :: (← flowItems fuel false)
      | _ =>
        let item ← node fuel false false
        return item :: (← flowItems fuel false)

/-- The entries of a flow mapping, up to its end. -/
def flowEntries : (fuel : Nat) → (isFirst : Bool) → Parse (List (Node × Node))
  | 0, _ => refuse
  | fuel + 1, isFirst => do
    if (← peek) == some .flowMappingEnd then
      skip
      return []
    else
      if !isFirst then take .flowEntry
      match ← peek with
      | some .flowMappingEnd =>
        skip
        return []
      | some .key =>
        skip
        let key ←
          if (← peek) == some .value || endsFlowEntry .flowMappingEnd (← peek) then
            pure (Node.emptyScalar none)
          else node fuel false false
        let value ← flowValue fuel .flowMappingEnd
        return (key, value) :: (← flowEntries fuel false)
      | _ =>
        let key ← node fuel false false
        return (key, .emptyScalar none) :: (← flowEntries fuel false)

/-- The value of an entry of a flow collection. -/
def flowValue : (fuel : Nat) → (closing : Token) → Parse Node
  | 0, _ => refuse
  | fuel + 1, closing => do
    if (← peek) == some .value then
      skip
      if endsFlowEntry closing (← peek) then return .emptyScalar none else node fuel false false
    else return .emptyScalar none

end

/-! ### Documents -/

/-- The handles that need no directive. -/
def standardHandles : List (String × String) :=
  [("!", "!"), ("!!", "tag:yaml.org,2002:")]

/-- Takes the directives in front of a document. There is at most one version, and one directive for
a handle. -/
def directives : (fuel : Nat) → (hasVersion : Bool) → (handles : List (String × String)) →
    Parse (Bool × List (String × String))
  | 0, _, _ => refuse
  | fuel + 1, hasVersion, handles => do
    match ← peek with
    | some (.version major minor) =>
      if hasVersion || major != 1 || (minor != 1 && minor != 2) then refuse
      else
        skip
        directives fuel true handles
    | some (.tagHandle handle full) =>
      if (handles.lookup handle).isSome then refuse
      else
        skip
        directives fuel hasVersion (handles ++ [(handle, full)])
    | _ => return (hasVersion || !handles.isEmpty, handles)

/-- Skips the marks that end a document. -/
def documentEnds : (fuel : Nat) → Parse Unit
  | 0 => refuse
  | fuel + 1 => do
    if (← peek) == some .documentEnd then
      skip
      documentEnds fuel
    else return ()

/-- Whether a token stands between documents. -/
def isBetweenDocuments : Option Token → Bool
  | none | some .documentStart | some .documentEnd | some (.version ..) | some (.tagHandle ..) =>
    true
  | _ => false

/-- The one document of a stream. -/
def document (fuel : Nat) : Parse Node := do
  let (hasDirectives, handles) ← directives fuel false []
  modify fun s => { s with handles := handles ++ standardHandles }
  let n ←
    if (← peek) == some .documentStart then do
      skip
      if isBetweenDocuments (← peek) then pure (Node.emptyScalar none) else node fuel true false
    else if hasDirectives then refuse
    else node fuel true false
  documentEnds fuel
  if (← peek) == none then return n else refuse

end Parse

namespace Node

/-- The node of each number, the latest one first. -/
def Anchors.ofStream (s : Stream) : Anchors :=
  s.owners.filterMap fun (id, serial) => (s.anchored.lookup serial).map (id, ·)

/-- The document of a text, with nodes in place of aliases. -/
def parse? (s : String) : Option Node := do
  let tokens ← tokens? s.toList
  let fuel := 3 * tokens.length + 3
  let (n, stream) ← (Parse.document fuel).run ⟨tokens, [], [], 0, [], []⟩
  n.expand? (Anchors.ofStream stream)

end Node

end ImageCatalog.Yaml
