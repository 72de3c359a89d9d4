import RuleCatalog.Yaml.Token.Scan

/-! # YAML nodes

A document as a tree of nodes. An alias keeps the number of the node that it stands for, so that
a node may hold an alias of itself. -/
namespace RuleCatalog.Yaml

inductive Node where
  | scalar (s : Scalar) (tag : Option Tag)
  | sequence (items : List Node)
  | mapping (pairs : List (Node × Node))
  | alias (number : Nat)
  deriving Repr

/-- A node without content. -/
def Node.null : Node := .scalar .null none

mutual

/-- How many scalars, aliases and ends of collections a node is made of. -/
def Node.size : Node → Nat
  | .scalar .. | .alias _ => 1
  | .sequence items => Node.sizeOfItems items + 2
  | .mapping pairs => Node.sizeOfPairs pairs + 2

def Node.sizeOfItems : List Node → Nat
  | [] => 0
  | n :: ns => n.size + Node.sizeOfItems ns

def Node.sizeOfPairs : List (Node × Node) → Nat
  | [] => 0
  | p :: ps => Node.sizeOfPair p + Node.sizeOfPairs ps

def Node.sizeOfPair : Node × Node → Nat
  | (key, value) => key.size + value.size

end

/-- A document with the nodes that bear an anchor, by their numbers. -/
structure Document where
  root : Node
  anchored : List (Nat × Node)
  deriving Repr

/-- What is known while nodes are built: the tokens to come, the anchors by name, and the
finished nodes that bear one. -/
structure Composition where
  tokens : List Token
  numbers : List (String × Nat)
  anchored : List (Nat × Node)

/-- A step of building nodes. -/
abbrev Compose := StateT Composition Option

namespace Compose

def peek? : Compose (Option Token) := return (← get).tokens.head?

def skip : Compose Unit := modify fun s => { s with tokens := s.tokens.drop 1 }

/-- Whether the next token is one of a list. -/
def isAt (ts : List Token) : Compose Bool := return (← peek?).any ts.contains

/-- Numbers a new anchor; an older one of the same name is forgotten. -/
def newAnchor (name : String) : Compose Nat := do
  let n := (← get).numbers.length
  modify fun s => { s with numbers := (name, n) :: s.numbers }
  return n

/-- Keeps a finished node under the number of its anchor. -/
def keep (number : Option Nat) (node : Node) : Compose Node := do
  match number with
  | some n => modify fun s => { s with anchored := (n, node) :: s.anchored }
  | none => pure ()
  return node

/-- An anchor and a tag, each at most once and in any order. -/
def properties : Compose (Option Nat × Option Tag) := do
  match ← peek? with
  | some (.anchor name) =>
    skip
    let number ← newAnchor name
    match ← peek? with
    | some (.tag t) => skip; return (some number, some t)
    | _ => return (some number, none)
  | some (.tag t) =>
    skip
    match ← peek? with
    | some (.anchor name) => skip; return (some (← newAnchor name), some t)
    | _ => return (none, some t)
  | _ => return (none, none)

/-! The fuel of what follows bounds the depth of calls; of any three calls, one within the
other, at least one takes a token. `inBlock` says that block collections are allowed, and
`unindented` that the entries of a sequence may stand in the column of the mapping around it. -/

mutual

def node (inBlock unindented : Bool) : Nat → Compose Node
  | 0 => failure
  | fuel + 1 => do
    if let some (.alias name) := ← peek? then
      skip
      match (← get).numbers.lookup name with
      | some n => return .alias n
      | none => failure
    else
      let (number, tag) ← properties
      keep number (← content inBlock unindented (number.isSome || tag.isSome) tag fuel)

/-- A node without its anchor; one with an anchor or a tag may be empty. -/
def content (inBlock unindented mayBeEmpty : Bool) (tag : Option Tag) : Nat → Compose Node
  | 0 => failure
  | fuel + 1 => do
    match ← peek? with
    | some (.scalar s) => skip; return .scalar s tag
    | some .flowSequenceStart => skip; return .sequence (← flowItems true fuel)
    | some .flowMappingStart => skip; return .mapping (← flowPairs true fuel)
    | t =>
      if t = some .blockEntry && unindented then return .sequence (← unindentedItems fuel)
      else if t = some .blockSequenceStart && inBlock then
        skip
        return .sequence (← blockItems fuel)
      else if t = some .blockMappingStart && inBlock then
        skip
        return .mapping (← blockPairs fuel)
      else if mayBeEmpty then return .scalar ⟨"", true⟩ tag
      else failure

/-- A node, or an empty one before given tokens. -/
def nodeBefore (inBlock unindented : Bool) (ends : List Token) : Nat → Compose Node
  | 0 => failure
  | fuel + 1 => do if ← isAt ends then return .null else node inBlock unindented fuel

def blockItems : Nat → Compose (List Node)
  | 0 => failure
  | fuel + 1 => do
    match ← peek? with
    | some .blockEnd => skip; return []
    | some .blockEntry =>
      skip
      let item ← nodeBefore true false [.blockEntry, .blockEnd] fuel
      return item :: (← blockItems fuel)
    | _ => failure

def unindentedItems : Nat → Compose (List Node)
  | 0 => failure
  | fuel + 1 => do
    if ← isAt [.blockEntry] then
      skip
      let item ← nodeBefore true false [.blockEntry, .key, .value, .blockEnd] fuel
      return item :: (← unindentedItems fuel)
    else return []

def blockPairs : Nat → Compose (List (Node × Node))
  | 0 => failure
  | fuel + 1 => do
    match ← peek? with
    | some .blockEnd => skip; return []
    | some .key =>
      skip
      let key ← nodeBefore true true [.key, .value, .blockEnd] fuel
      let value ← blockValue fuel
      return (key, value) :: (← blockPairs fuel)
    | some .value =>
      let value ← blockValue fuel
      return (.null, value) :: (← blockPairs fuel)
    | _ => failure

def blockValue : Nat → Compose Node
  | 0 => failure
  | fuel + 1 => do
    if ← isAt [.value] then
      skip
      nodeBefore true true [.key, .value, .blockEnd] fuel
    else return .null

/-- The entries of a flow sequence, of which one with a key is a mapping of its own. -/
def flowItems (first : Bool) : Nat → Compose (List Node)
  | 0 => failure
  | fuel + 1 => do
    if ← isAt [.flowSequenceEnd] then
      skip
      return []
    if !first then
      if ← isAt [.flowEntry] then skip else failure
    match ← peek? with
    | some .flowSequenceEnd => skip; return []
    | some .key =>
      skip
      let pair ← flowPair fuel
      return .mapping [pair] :: (← flowItems false fuel)
    | _ =>
      let item ← node false false fuel
      return item :: (← flowItems false fuel)

/-- The key and value of an entry of a flow sequence. A missing key takes the token in its place
along with it. -/
def flowPair : Nat → Compose (Node × Node)
  | 0 => failure
  | fuel + 1 => do
    let missing ← isAt [.value, .flowEntry, .flowSequenceEnd]
    let key ← if missing then do skip; pure .null else node false false fuel
    if ← isAt [.value] then
      skip
      return (key, ← nodeBefore false false [.flowEntry, .flowSequenceEnd] fuel)
    else return (key, .null)

def flowPairs (first : Bool) : Nat → Compose (List (Node × Node))
  | 0 => failure
  | fuel + 1 => do
    if ← isAt [.flowMappingEnd] then
      skip
      return []
    if !first then
      if ← isAt [.flowEntry] then skip else failure
    match ← peek? with
    | some .flowMappingEnd => skip; return []
    | some .key =>
      skip
      let key ← nodeBefore false false [.value, .flowEntry, .flowMappingEnd] fuel
      let value ← flowValue fuel
      return (key, value) :: (← flowPairs false fuel)
    | some .value =>
      let value ← flowValue fuel
      return (.null, value) :: (← flowPairs false fuel)
    | _ =>
      let key ← node false false fuel
      return (key, .null) :: (← flowPairs false fuel)

def flowValue : Nat → Compose Node
  | 0 => failure
  | fuel + 1 => do
    if ← isAt [.value] then
      skip
      nodeBefore false false [.flowEntry, .flowMappingEnd] fuel
    else return .null

end

/-- A document up to its end. One that follows a mark may be empty. -/
def document (fuel : Nat) : Compose Node := do
  if ← isAt [.directive, .documentStart] then
    modify fun s => { s with tokens := s.tokens.dropWhile (· == .directive) }
    if ← isAt [.documentStart] then
      skip
      if (← peek?).isNone then return .null
      nodeBefore true false [.directive, .documentStart, .documentEnd] fuel
    else failure
  else node true false fuel

end Compose

/-- The only document of a list of tokens. -/
def Document.ofTokens? (ts : List Token) : Option Document := do
  let (root, s) ← (Compose.document (3 * ts.length + 3)).run ⟨ts, [], []⟩
  if (s.tokens.dropWhile (· == .documentEnd)).isEmpty then some ⟨root, s.anchored⟩ else none

/-- The only document of a text. -/
def Document.read? (text : String) : Option Document := (Token.scan? text).bind ofTokens?

end RuleCatalog.Yaml
