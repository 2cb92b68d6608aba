import StreamMux.Text.Number
import StreamMux.Yaml.Glyph
import StreamMux.Yaml.Token

/-!
Tags, names of nodes, and directives. A tag is written with a handle, for which a directive tells
what it is short for, or in angles as it is. In a tag, a percent sign and two digits are a byte.
-/
namespace StreamMux.Yaml

/-- A character of names and handles. -/
def isNameChar (c : Char) : Bool := c.isAlphanum || c = '_' || c = '-'

/-- A character of tags; some of them only in angles. -/
def isTagChar (inAngles : Bool) (c : Char) : Bool :=
  isNameChar c || ";/?:@&=+$.!~*'()".toList.contains c || (inAngles && ",[]".toList.contains c)

/-- The bytes spell whole characters, the first of them going on for so many bytes. -/
def isWholeText : Nat → List UInt8 → Bool
  | open_, [] => open_ = 0
  | 0, b :: rest =>
    if b < 0x80 then isWholeText 0 rest
    else if b < 0xC0 then false
    else if b < 0xE0 then isWholeText 1 rest
    else if b < 0xF0 then isWholeText 2 rest
    else if b < 0xF8 then isWholeText 3 rest
    else false
  | open_ + 1, b :: rest => 0x80 ≤ b && b < 0xC0 && isWholeText open_ rest

/-- The bytes of a tag, and what is behind it. -/
def readTagBytes (inAngles : Bool) : List Glyph → Option (List UInt8 × List Glyph)
  | [] => some ([], [])
  | ⟨'%', _, _, _⟩ :: rest =>
    match rest with
    | a :: b :: rest => do
      let high ← digit? 16 a.char
      let low ← digit? 16 b.char
      let (bytes, rest) ← readTagBytes inAngles rest
      return (UInt8.ofNat (16 * high + low) :: bytes, rest)
    | _ => none
  | g :: rest =>
    if isTagChar inAngles g.char then
      (readTagBytes inAngles rest).map fun (bytes, rest) => (g.char.toNat.toUInt8 :: bytes, rest)
    else some ([], g :: rest)

/-- A part of a tag, as far as it goes. -/
def readTagPart (inAngles : Bool) (gs : List Glyph) : Option (Tag × List Glyph) :=
  (readTagBytes inAngles gs).filter fun (bytes, _) => isWholeText 0 bytes

/-- A part of a tag that must not be empty. -/
def readTagWord (inAngles : Bool) (gs : List Glyph) : Option (Tag × List Glyph) :=
  (readTagPart inAngles gs).filter fun (tag, _) => !tag.isEmpty

/-- The glyphs behind a character that has to come next. -/
def expect (c : Char) : List Glyph → Option (List Glyph)
  | g :: rest => if g.char = c then some rest else none
  | [] => none

/-- A tag behind its first exclamation mark. -/
def readTag (gs : List Glyph) : Option (Token × List Glyph) :=
  match expect '<' gs with
  | some gs => do
    let (tag, gs) ← readTagWord true gs
    return (.tag "" tag, ← expect '>' gs)
  | none =>
    let (name, rest) := takeWhile isNameChar gs
    match expect '!' rest with
    | some rest => do
      let (suffix, rest) ← readTagWord false rest
      return (.tag (String.ofList ('!' :: name ++ ['!'])) suffix, rest)
    | none => do
      let (more, rest) ← readTagPart false rest
      let suffix := Tag.ofString (String.ofList name) ++ more
      return (if suffix.isEmpty then .tag "" (Tag.ofString "!") else .tag "!" suffix, rest)

/-- A name, and what is behind it. Only some marks may be joined to a name. -/
def readName (gs : List Glyph) : Option (String × List Glyph) :=
  let (name, rest) := takeWhile isNameChar gs
  let ends := wordEnds rest || rest.head?.any (fun g => "?:,]\x7d%@\x60".toList.contains g.char)
  if name.isEmpty || !ends then none else some (String.ofList name, rest)

/-- A number of at most nine digits. -/
def readVersionNumber (gs : List Glyph) : Option (Nat × List Glyph) := do
  let (digits, rest) := takeWhile Char.isDigit gs
  if 9 < digits.length then none else return (← parseDigits? 10 digits, rest)

/-- A directive behind its percent sign, and the lines below it. -/
def readDirective (gs : List Glyph) : Option (Token × List Glyph) := do
  let (name, rest) := takeWhile isNameChar gs
  if !wordEnds rest then none
  let gs := skipWhile isBlank rest
  let (token, gs) ←
    match String.ofList name with
    | "YAML" => do
      let (major, gs) ← readVersionNumber gs
      let (minor, gs) ← readVersionNumber (← expect '.' gs)
      some (Token.version major minor, gs)
    | "TAG" => do
      let (word, rest) := takeWhile isNameChar (← expect '!' gs)
      let (handle, rest) :=
        match expect '!' rest with
        | some rest => ('!' :: word ++ ['!'], rest)
        | none => ('!' :: word, rest)
      if handle ≠ ['!'] ∧ handle.getLast? ≠ some '!' then none
      if !rest.head?.any (isBlank ·.char) then none
      let (expansion, rest) ← readTagWord true (skipWhile isBlank rest)
      if wordEnds rest then some (Token.shorthand (String.ofList handle) expansion, rest) else none
    | _ => none
  return (token, ← restOfLine? gs)

end StreamMux.Yaml
