import StreamMux.Yaml.Scalar
import StreamMux.Yaml.Tag

/-!
From characters to tokens. Blocks begin and end by indentation. Whether something is a key is known
only once its colon is found, so places where a key may have begun are remembered; the marks of
the key, and of the mapping that it begins, are inserted there later.
-/
namespace StreamMux.Yaml

/-- A place where a key may have begun. -/
structure KeyPlace where
  /-- Tokens before it. -/
  index : Nat
  /-- Its first character. -/
  start : Glyph
  /-- It can be nothing but a key. -/
  required : Bool

/-- A key is too far away once its line ended or it became too long. -/
def KeyPlace.isStale (k : KeyPlace) (g : Glyph) : Bool :=
  k.start.line < g.line || k.start.offset + 1024 < g.offset

/-- The tokens that were found, and what matters for the next one. -/
structure Layout where
  rest : List Glyph
  tokens : Array Token := #[]
  /-- The columns of the blocks that are open, the innermost first. -/
  indents : List Nat := []
  /-- A key may begin here. -/
  keyAllowed : Bool := true
  /-- The place of the key that may have begun within the innermost brackets. -/
  keyPlace : Option KeyPlace := none
  /-- The same for what is around each pair of brackets, the innermost first. -/
  outerPlaces : List (Option KeyPlace) := []

namespace Layout

def inFlow (l : Layout) : Bool := !l.outerPlaces.isEmpty

def push (l : Layout) (token : Token) : Layout := { l with tokens := l.tokens.push token }

/-- A token at a place that was passed already. -/
def insert (l : Layout) (index : Nat) (token : Token) : Layout :=
  { l with tokens := l.tokens.insertIdxIfInBounds index token }

/-! ### Keys -/

/-- The key that may have begun is none. That must not be if it can be nothing else. -/
def forgetKey (l : Layout) : Option Layout :=
  if l.keyPlace.any (·.required) then none else some { l with keyPlace := none }

/-- A key may have begun with this character. -/
def rememberKey (l : Layout) (g : Glyph) : Option Layout :=
  if !l.keyAllowed then some l
  else do
    let l ← l.forgetKey
    let required := !l.inFlow && l.indents.head? = some g.column
    return { l with keyPlace := some { index := l.tokens.size, start := g, required } }

/-- Forgets the keys that are too far away from a character. -/
def forgetStale (l : Layout) (g : Glyph) : Option Layout :=
  let places := l.keyPlace :: l.outerPlaces
  if places.any (·.any fun k => k.required && k.isStale g) then none
  else
    let fresh (place : Option KeyPlace) := place.filter (!·.isStale g)
    some { l with keyPlace := fresh l.keyPlace, outerPlaces := l.outerPlaces.map fresh }

/-! ### Blocks -/

/-- A block begins in a column, unless one is open there. Its first token gets the given place. -/
def openBlock (l : Layout) (column index : Nat) (token : Token) : Layout :=
  if !l.inFlow && l.indents.head?.all (· < column) then
    { l.insert index token with indents := column :: l.indents }
  else l

/-- Ends the blocks for which `isOver` holds of their column. -/
def closeBlocks (l : Layout) (isOver : Nat → Bool) : Layout :=
  if l.inFlow then l
  else
    { l with
      indents := l.indents.dropWhile isOver
      tokens := l.tokens ++ (l.indents.takeWhile isOver).map fun _ => Token.blockEnd }

/-- A mark with which a block may begin. It must stand where a key could. -/
def blockMark (l : Layout) (g : Glyph) (block : Token) : Option Layout :=
  if l.inFlow then some l
  else if l.keyAllowed then some (l.openBlock g.column l.tokens.size block)
  else none

/-! ### Tokens -/

/-- All blocks end, and nothing can be a key any more. -/
def leaveDocument (l : Layout) : Option Layout := do
  let l ← (l.closeBlocks fun _ => true).forgetKey
  return { l with keyAllowed := false }

/-- Brackets open. -/
def openFlow (l : Layout) (g : Glyph) (token : Token) : Option Layout := do
  let l ← l.rememberKey g
  return { l.push token with
    keyAllowed := true, keyPlace := none, outerPlaces := l.keyPlace :: l.outerPlaces }

/-- Brackets close. What they enclose may be a key. -/
def closeFlow (l : Layout) (token : Token) : Option Layout := do
  let l ← l.forgetKey
  return { l.push token with
    keyAllowed := false
    keyPlace := l.outerPlaces.head?.join
    outerPlaces := l.outerPlaces.drop 1 }

def flowEntry (l : Layout) : Option Layout := do
  return { (← l.forgetKey).push .flowEntry with keyAllowed := true }

def blockEntry (l : Layout) (g : Glyph) : Option Layout := do
  let l ← l.blockMark g .blockSequenceStart
  return { (← l.forgetKey).push .blockEntry with keyAllowed := true }

/-- The mark in front of a key that needs one. -/
def explicitKey (l : Layout) (g : Glyph) : Option Layout := do
  let l ← l.blockMark g .blockMappingStart
  return { (← l.forgetKey).push .key with keyAllowed := !l.inFlow }

/-- The colon behind a key. -/
def value (l : Layout) (g : Glyph) : Option Layout :=
  match l.keyPlace with
  | some k =>
    let l := (l.insert k.index .key).openBlock k.start.column k.index .blockMappingStart
    some { l.push .value with keyPlace := none, keyAllowed := false }
  | none => do
    let l ← l.blockMark g .blockMappingStart
    return { l.push .value with keyAllowed := !l.inFlow }

/-- Something that can be a key, or part of one: a token, and what is behind it. -/
def word (l : Layout) (g : Glyph) (read : Option (Token × List Glyph)) : Option Layout := do
  let l ← l.rememberKey g
  let (token, rest) ← read
  return { l.push token with keyAllowed := false, rest }

def quotedScalar (read : QuotedScalar) : Option (Token × List Glyph) :=
  read.map fun (text, rest) => (.scalar (String.ofList text) .quoted, rest)

/-- A tag ends where a word ends, or at a comma within brackets. -/
def tag (l : Layout) (g : Glyph) (gs : List Glyph) : Option Layout := do
  let read ← readTag gs
  let ends := wordEnds read.2 || (l.inFlow && (expect ',' read.2).isSome)
  if ends then l.word g read else none

def plainScalar (l : Layout) (g : Glyph) : Option Layout := do
  let l ← l.rememberKey g
  let s ← readPlain l.inFlow ((l.indents.head?.map (· + 1)).getD 0) [] {} l.rest
  let token := Token.scalar (String.ofList s.text) .plain
  return { l.push token with keyAllowed := s.onNewLine, rest := s.rest }

def blockScalar (l : Layout) (folds : Bool) (gs : List Glyph) : Option Layout := do
  if l.inFlow then none
  let l ← l.forgetKey
  let (text, rest) ← readBlock folds l.indents.head? gs
  let token := Token.scalar (String.ofList text) (if folds then .folded else .literal)
  return { l.push token with keyAllowed := true, rest }

/-- A mark between documents takes three characters. -/
def documentMark (l : Layout) (token : Token) : Option Layout := do
  let l ← l.leaveDocument
  return { l.push token with rest := l.rest.drop 3 }

def directive (l : Layout) (gs : List Glyph) : Option Layout := do
  let l ← l.leaveDocument
  let (token, rest) ← readDirective gs
  return { l.push token with rest }

/-- Goes over blanks, comments and line breaks. In the block part a tab must not stand where a key
could start, and a key could start on each new line. -/
def skipToToken (inFlow : Bool) : Bool → Bool → List Glyph → Bool × List Glyph
  | _, keyAllowed, [] => (keyAllowed, [])
  | inComment, keyAllowed, g :: rest =>
    if isBreak g.char then skipToToken inFlow false (keyAllowed || !inFlow) rest
    else if inComment || g.char = ' ' || (g.char = '\t' && (inFlow || !keyAllowed)) then
      skipToToken inFlow inComment keyAllowed rest
    else if g.char = '#' then skipToToken inFlow true keyAllowed rest
    else (keyAllowed, g :: rest)

/-- The next token, which begins with a character and goes on behind it. -/
def token (l : Layout) (g : Glyph) (gs : List Glyph) : Option Layout :=
  let behind : Layout := { l with rest := gs }
  if g.column = 0 && g.char = '%' then l.directive gs
  else if isDocumentMark '-' l.rest then l.documentMark .documentStart
  else if isDocumentMark '.' l.rest then l.documentMark .documentEnd
  else
    match g.char with
    | '[' => behind.openFlow g .flowSequenceStart
    | '{' => behind.openFlow g .flowMappingStart
    | ']' => behind.closeFlow .flowSequenceEnd
    | '}' => behind.closeFlow .flowMappingEnd
    | ',' => behind.flowEntry
    | '-' => if wordEnds gs then behind.blockEntry g else l.plainScalar g
    | '?' => if l.inFlow || wordEnds gs then behind.explicitKey g else l.plainScalar g
    | ':' => if l.inFlow || wordEnds gs then behind.value g else l.plainScalar g
    | '*' => l.word g ((readName gs).map fun (name, rest) => (.reference name, rest))
    | '&' => l.word g ((readName gs).map fun (name, rest) => (.anchor name, rest))
    | '!' => l.tag g gs
    | '|' => l.blockScalar false gs
    | '>' => l.blockScalar true gs
    | '\'' => l.word g (quotedScalar (readSingleQuoted [] {} gs))
    | '"' => l.word g (quotedScalar (readDoubleQuoted (gs.length + 1) [] {} gs))
    | '\t' | '#' | '%' | '@' | '\x60' => none
    | _ => l.plainScalar g

/-- Reads tokens up to the end. -/
def finish : Nat → Layout → Option Layout
  | 0, _ => none
  | fuel + 1, l => do
    let (keyAllowed, rest) := skipToToken l.inFlow false l.keyAllowed l.rest
    let l : Layout := { l with keyAllowed, rest }
    match rest with
    | [] => l.leaveDocument
    | g :: gs =>
      let l ← l.forgetStale g
      finish fuel (← (l.closeBlocks (g.column < ·)).token g gs)

end Layout

/-- The tokens of a text, if it can be divided into tokens. -/
def tokens? (text : String) : Option (List Token) := do
  let glyphs ← glyphs? text
  let l ← Layout.finish (glyphs.length + 1) { rest := glyphs }
  return l.tokens.toList

end StreamMux.Yaml
