import StreamMux.Yaml.Layout
import StreamMux.Yaml.Node

/-!
From tokens to a document. In the block part and within brackets the same node can be written; what
differs is what may be left out around it. A text holds at most one document.
-/
namespace StreamMux.Yaml

/-- The tokens that are left, and the names and shorthands that were met. -/
structure Reading where
  tokens : List Token
  shorthands : List (String × Tag) := []
  /-- Each name, with the number that it has now. -/
  numbers : List (String × Nat) := []
  /-- Each number, with the place of the node that got it, counted among nodes with a name. The
  last node that got it comes first. -/
  places : List (Nat × Nat) := []
  nodes : List (Nat × Node) := []

/-- A step of reading, which may fail. -/
abbrev Read := StateT Reading Option

namespace Read

def peek : Read (Option Token) := return (← get).tokens.head?

def skip : Read Unit := modify fun r => { r with tokens := r.tokens.drop 1 }

/-- The next token is one of these. -/
def atAny (tokens : List Token) : Read Bool := return (← peek).any tokens.contains

/-- Goes over the next token if it is this one. -/
def take (token : Token) : Read Bool := do
  if (← peek) = some token then
    skip
    return true
  else return false

/-- Goes over the next token, which has to be this one. -/
def expectToken (token : Token) : Read Unit := do
  if !(← take token) then failure

/-! ### Names and tags -/

/-- The number of the node that has a name. -/
def number (name : String) : Read Nat := do
  match (← get).numbers.lookup name with
  | some n => return n
  | none => failure

/-- Gives a name to the node that comes next; the result is the place of the node. A name gets the
number of names that were known before, also if it is one of them. -/
def declare (name : String) : Read Nat := do
  let r ← get
  let number := r.numbers.length
  let place := r.places.length
  set { r with
    numbers := (name, number) :: r.numbers.filter (·.1 != name)
    places := (number, place) :: r.places }
  return place

/-- A tag without shorthand. -/
def expand (handle : String) (suffix : Tag) : Read Tag := do
  if handle.isEmpty then return suffix
  match (← get).shorthands.lookup handle with
  | some expansion => return expansion ++ suffix
  | none => failure

/-- The place of a node that is named here, and its tag; either may come first. -/
def properties : Read (Option Nat × Option Tag) := do
  match ← peek with
  | some (.anchor name) =>
    skip
    match ← peek with
    | some (.tag handle suffix) =>
      skip
      let tag ← expand handle suffix
      return (some (← declare name), some tag)
    | _ => return (some (← declare name), none)
  | some (.tag handle suffix) =>
    skip
    let tag ← expand handle suffix
    match ← peek with
    | some (.anchor name) =>
      skip
      return (some (← declare name), some tag)
    | _ => return (none, some tag)
  | _ => return (none, none)

/-! ### Nodes -/

/-- Where a node stands: whether blocks may begin there, and whether a sequence may begin there
without being indented. -/
structure Site where
  block : Bool
  bareSequence : Bool := false

def Site.item : Site := { block := true }
def Site.entry : Site := { block := true, bareSequence := true }
def Site.flow : Site := { block := false }

/-- Nothing, which is a node if it has a name or a tag. -/
def empty (hasProperties : Bool) (tag : Option Tag) : Read Node :=
  if hasProperties then return .scalar "" .plain tag else failure

mutual

/-- A node. -/
def node : Nat → Site → Read Node
  | 0, _ => failure
  | fuel + 1, site => do
    match ← peek with
    | some (.reference name) =>
      skip
      return .reference (← number name)
    | _ =>
      let (place, tag) ← properties
      let node ← content fuel site (place.isSome || tag.isSome) tag
      match place with
      | some place => modify fun r => { r with nodes := (place, node) :: r.nodes }
      | none => pure ()
      return node

/-- A node behind its name and tag. With one of them, it may be nothing. -/
def content : Nat → Site → Bool → Option Tag → Read Node
  | 0, _, _, _ => failure
  | fuel + 1, site, hasProperties, tag => do
    match ← peek with
    | some (.scalar text form) =>
      skip
      return .scalar text form tag
    | some .flowSequenceStart =>
      skip
      return .sequence (← flowItems fuel true)
    | some .flowMappingStart =>
      skip
      return .mapping (← flowEntries fuel true)
    | some .blockEntry =>
      if site.bareSequence then return .sequence (← bareItems fuel)
      else empty hasProperties tag
    | some .blockSequenceStart =>
      if site.block then
        skip
        return .sequence (← blockItems fuel)
      else empty hasProperties tag
    | some .blockMappingStart =>
      if site.block then
        skip
        return .mapping (← blockEntries fuel)
      else empty hasProperties tag
    | _ => empty hasProperties tag

/-- A node, or nothing if one of these tokens follows. -/
def nodeUnless : Nat → Site → List Token → Read Node
  | 0, _, _ => failure
  | fuel + 1, site, ends => do
    if ← atAny ends then return .absent else node fuel site

/-- Nothing without a colon, otherwise what is behind it. -/
def valueUnless : Nat → Site → List Token → Read Node
  | 0, _, _ => failure
  | fuel + 1, site, ends => do
    if ← take .value then nodeUnless fuel site ends else return .absent

/-- The items of a sequence up to the end of its block. -/
def blockItems : Nat → Read (List Node)
  | 0 => failure
  | fuel + 1 => do
    if ← take .blockEnd then return []
    expectToken .blockEntry
    let item ← nodeUnless fuel Site.item [.blockEntry, .blockEnd]
    return item :: (← blockItems fuel)

/-- The items of a sequence that is not indented, up to the next key. -/
def bareItems : Nat → Read (List Node)
  | 0 => failure
  | fuel + 1 => do
    if ← take .blockEntry then
      let item ← nodeUnless fuel Site.item [.blockEntry, .key, .value, .blockEnd]
      return item :: (← bareItems fuel)
    else return []

/-- The entries of a mapping up to the end of its block. -/
def blockEntries : Nat → Read (List (Node × Node))
  | 0 => failure
  | fuel + 1 => do
    if ← take .blockEnd then return []
    expectToken .key
    let key ← nodeUnless fuel Site.entry [.key, .value, .blockEnd]
    let value ← valueUnless fuel Site.entry [.key, .value, .blockEnd]
    return (key, value) :: (← blockEntries fuel)

/-- The items within brackets. One with a key is a mapping with one entry. -/
def flowItems : Nat → Bool → Read (List Node)
  | 0, _ => failure
  | fuel + 1, first => do
    if ← take .flowSequenceEnd then return []
    if !first then expectToken .flowEntry
    if ← take .flowSequenceEnd then return []
    let item ←
      if ← take .key then
        pure (Node.mapping [← flowPair fuel])
      else node fuel Site.flow
    return item :: (← flowItems fuel false)

/-- The only entry of a mapping without braces. -/
def flowPair : Nat → Read (Node × Node)
  | 0 => failure
  | fuel + 1 => do
    let key ←
      if ← atAny [.value, .flowEntry, .flowSequenceEnd] then
        skip
        pure Node.absent
      else node fuel Site.flow
    let value ← valueUnless fuel Site.flow [.flowEntry, .flowSequenceEnd]
    return (key, value)

/-- The entries within braces. -/
def flowEntries : Nat → Bool → Read (List (Node × Node))
  | 0, _ => failure
  | fuel + 1, first => do
    if ← take .flowMappingEnd then return []
    if !first then expectToken .flowEntry
    if ← take .flowMappingEnd then return []
    let entry ←
      if ← take .key then
        let key ← nodeUnless fuel Site.flow [.value, .flowEntry, .flowMappingEnd]
        let value ← valueUnless fuel Site.flow [.flowEntry, .flowMappingEnd]
        pure (key, value)
      else
        let key ← node fuel Site.flow
        pure (key, Node.absent)
    return entry :: (← flowEntries fuel false)

end

/-! ### Documents -/

/-- Directives in front of a document. The version is given at most once, and so is what stands
for a handle. -/
def directives : Nat → Bool → Read Unit
  | 0, _ => failure
  | fuel + 1, versionSeen => do
    match ← peek with
    | some (.version major minor) =>
      if versionSeen || major ≠ 1 || (minor ≠ 1 && minor ≠ 2) then failure
      skip
      directives fuel true
    | some (.shorthand handle expansion) =>
      let r ← get
      if (r.shorthands.lookup handle).isSome then failure
      set { r with shorthands := (handle, expansion) :: r.shorthands }
      skip
      directives fuel versionSeen
    | _ => return ()

/-- The handles that every document knows. -/
def commonShorthands : List (String × Tag) :=
  [("!", Tag.ofString "!"), ("!!", Tag.ofString "tag:yaml.org,2002:")]

/-- Nothing but directives and marks between documents can follow. -/
def atDocumentEnd : Read Bool := do
  match ← peek with
  | none | some (.version _ _) | some (.shorthand _ _) | some .documentStart | some .documentEnd =>
    return true
  | _ => return false

/-- The only document of a text, up to the end of the text. -/
def document : Read Document := do
  let fuel := 4 * (← get).tokens.length + 8
  if (← peek).isNone then return {}
  if (← peek) = some .documentEnd then failure
  let explicit ← atDocumentEnd
  if explicit then
    directives fuel false
    expectToken .documentStart
  modify fun r => { r with shorthands := r.shorthands ++ commonShorthands }
  let root ← if explicit && (← atDocumentEnd) then pure Node.absent else node fuel Site.item
  let r ← get
  if r.tokens.any (· ≠ .documentEnd) then failure
  let named := r.places.filterMap fun (number, place) => (r.nodes.lookup place).map (number, ·)
  return { root, named }

end Read

/-- The document that a text holds, if it is well formed. A text without one holds nothing. -/
def Document.parse? (text : String) : Option Document := do
  (Read.document.run { tokens := ← tokens? text }).map (·.1)

end StreamMux.Yaml
