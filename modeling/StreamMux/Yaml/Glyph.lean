/-!
The characters of a document, each with the place where it stands. Where a line breaks, and what
may stand in a document at all.
-/
namespace StreamMux.Yaml

/-- A character and where it stands. -/
structure Glyph where
  char : Char
  /-- Lines before it. -/
  line : Nat
  /-- Characters before it in its line. -/
  column : Nat
  /-- Bytes before it in its line. -/
  offset : Nat
  deriving DecidableEq, Repr, Inhabited

def isBlank (c : Char) : Bool := c = ' ' || c = '\t'

/-- The separators of lines and of paragraphs. -/
def isSeparator (c : Char) : Bool := c.toNat = 0x2028 || c.toNat = 0x2029

def isBreak (c : Char) : Bool := c = '\n' || isSeparator c

/-- What follows is a blank, a line break, or nothing. -/
def wordEnds : List Glyph → Bool
  | [] => true
  | g :: _ => isBlank g.char || isBreak g.char

/-- A character that may stand in a document. -/
def isAllowed (c : Char) : Bool :=
  c = '\t' || c = '\n' || c = '\r' || (' ' ≤ c && c ≤ '~') || c.toNat = 0x85
    || (0xA0 ≤ c.toNat && c.toNat ≠ 0xFFFE && c.toNat ≠ 0xFFFF)

/-- Every line break but a separator is one and the same character. -/
def unifyBreaks : List Char → List Char
  | '\r' :: '\n' :: cs => '\n' :: unifyBreaks cs
  | '\r' :: cs => '\n' :: unifyBreaks cs
  | c :: cs => (if c.toNat = 0x85 then '\n' else c) :: unifyBreaks cs
  | [] => []

/-- Characters with their places, from the place of the first. -/
def placed (line column offset : Nat) : List Char → List Glyph
  | [] => []
  | c :: cs =>
    { char := c, line, column, offset } ::
      (if isBreak c then placed (line + 1) 0 0 cs
      else placed line (column + 1) (offset + c.utf8Size) cs)

/-- The mark of the byte order, which takes a column in front of the first character. -/
def byteOrderMark : Char := Char.ofNat 0xFEFF

/-- The characters of a text, if all of them are allowed. -/
def glyphs? (text : String) : Option (List Glyph) :=
  let chars := text.toList
  if !chars.all isAllowed then none
  else
    match unifyBreaks chars with
    | c :: cs => if c = byteOrderMark then placed 0 1 0 cs else placed 0 0 0 (c :: cs)
    | [] => some []

/-- The glyphs behind a stretch of one line. -/
def skipWhile (p : Char → Bool) (gs : List Glyph) : List Glyph := gs.dropWhile (p ·.char)

/-- A stretch of characters, and what is behind it. -/
def takeWhile (p : Char → Bool) (gs : List Glyph) : List Char × List Glyph :=
  ((gs.takeWhile (p ·.char)).map (·.char), gs.dropWhile (p ·.char))

/-- The glyphs behind blanks, a comment and one line break. Nothing else may stand in the line. -/
def restOfLine? (gs : List Glyph) : Option (List Glyph) :=
  let gs := skipWhile isBlank gs
  let gs :=
    match gs with
    | ⟨'#', _, _, _⟩ :: _ => skipWhile (!isBreak ·) gs
    | _ => gs
  match gs with
  | [] => some []
  | g :: rest => if isBreak g.char then some rest else none

end StreamMux.Yaml
