import StreamMux.Text.Number
import StreamMux.Yaml.Glyph

/-!
Scalars, read from where they begin. Between two words of a scalar, blanks count as they are, but
line breaks are folded: one is a space, of more the first is dropped. A block scalar keeps its line
breaks, or folds them between lines that are not indented further.
-/
namespace StreamMux.Yaml

/-! ### Gaps -/

/-- Line breaks, the first and the others, as they count between two words. -/
def foldBreaks (first others : List Char) : List Char :=
  if first = ['\n'] then (if others.isEmpty then [' '] else others) else first ++ others

/-- What was read behind the last word of a scalar. -/
structure Gap where
  /-- Blanks of the first line, the last one first. -/
  blanks : List Char := []
  /-- A line break was read. -/
  broken : Bool := false
  /-- The first line break, unless it was escaped. -/
  first : List Char := []
  /-- Further line breaks, the last one first. -/
  others : List Char := []

namespace Gap

/-- What the gap counts as. -/
def chars (gap : Gap) : List Char :=
  if gap.broken then foldBreaks gap.first gap.others.reverse else gap.blanks.reverse

def isEmpty (gap : Gap) : Bool := !gap.broken && gap.blanks.isEmpty

/-- A gap that an escaped line break begins. -/
def escaped : Gap := { broken := true }

/-- One more blank or line break. Blanks around line breaks do not count. -/
def push (gap : Gap) (c : Char) : Gap :=
  if isBlank c then if gap.broken then gap else { gap with blanks := c :: gap.blanks }
  else if gap.broken then { gap with others := c :: gap.others }
  else { blanks := [], broken := true, first := [c], others := [] }

end Gap

/-- Three marks at the start of a line, and nothing joined to them. -/
def isDocumentMark (mark : Char) : List Glyph → Bool
  | a :: b :: c :: rest =>
    a.column = 0 && a.char = mark && b.char = mark && c.char = mark && wordEnds rest
  | _ => false

/-- A document starts or ends here. -/
def endsDocument (gs : List Glyph) : Bool := isDocumentMark '-' gs || isDocumentMark '.' gs

/-! ### Plain scalars -/

def isFlowMark (c : Char) : Bool := c = ',' || c = '[' || c = ']' || c = '{' || c = '}'

/-- A scalar without quotes. -/
structure PlainScalar where
  text : List Char
  /-- Behind its last word a new line began. -/
  onNewLine : Bool
  rest : List Glyph

/-- A plain scalar ends before this character, which is no blank and no line break. -/
def plainEnds (inFlow : Bool) (least : Nat) (gap : Gap) (g : Glyph) (rest : List Glyph) : Bool :=
  (!gap.isEmpty &&
      ((!inFlow && g.column < least) || endsDocument (g :: rest) || g.char = '#'))
    || (g.char = ':' && wordEnds rest) || (inFlow && isFlowMark g.char)

/-- A colon to which a mark within brackets is joined, where it can only be a mistake. -/
def isStrayColon (inFlow : Bool) (g : Glyph) (rest : List Glyph) : Bool :=
  inFlow && g.char = ':' && rest.head?.any fun d => isFlowMark d.char || d.char = '?'

/-- Reads a plain scalar, from what was read of it, the last character first. Its further lines
are indented at least to `least`, unless it stands within brackets. -/
def readPlain (inFlow : Bool) (least : Nat) : List Char → Gap → List Glyph → Option PlainScalar
  | text, gap, [] => some { text := text.reverse, onNewLine := gap.broken, rest := [] }
  | text, gap, g :: rest =>
    if isBlank g.char || isBreak g.char then
      if g.char = '\t' && gap.broken && g.column < least then none
      else readPlain inFlow least text (gap.push g.char) rest
    else if plainEnds inFlow least gap g rest then
      some { text := text.reverse, onNewLine := gap.broken, rest := g :: rest }
    else if isStrayColon inFlow g rest then none
    else readPlain inFlow least (g.char :: (gap.chars.reverse ++ text)) {} rest

/-! ### Quoted scalars -/

/-- The text of a quoted scalar, and what is behind the closing quote. -/
abbrev QuotedScalar := Option (List Char × List Glyph)

/-- Reads a scalar in single quotes, behind the first one. Two quotes stand for one. -/
def readSingleQuoted : List Char → Gap → List Glyph → QuotedScalar
  | _, _, [] => none
  | text, gap, g :: rest =>
    let c := g.char
    let before := gap.chars.reverse ++ text
    if isBlank c || isBreak c then readSingleQuoted text (gap.push c) rest
    else if endsDocument (g :: rest) then none
    else if c = '\'' then
      match rest with
      | ⟨'\'', _, _, _⟩ :: rest => readSingleQuoted ('\'' :: before) {} rest
      | _ => some (before.reverse, rest)
    else readSingleQuoted (c :: before) {} rest

/-- The character that an escape with one letter stands for. -/
def escaped? : Char → Option Char
  | '0' => some (Char.ofNat 0)
  | 'a' => some (Char.ofNat 7)
  | 'b' => some (Char.ofNat 8)
  | 't' | '\t' => some '\t'
  | 'n' => some '\n'
  | 'v' => some (Char.ofNat 11)
  | 'f' => some (Char.ofNat 12)
  | 'r' => some '\r'
  | 'e' => some (Char.ofNat 27)
  | ' ' => some ' '
  | '"' => some '"'
  | '/' => some '/'
  | '\\' => some '\\'
  | 'N' => some (Char.ofNat 0x85)
  | '_' => some (Char.ofNat 0xA0)
  | 'L' => some (Char.ofNat 0x2028)
  | 'P' => some (Char.ofNat 0x2029)
  | _ => none

/-- How many digits follow an escape that gives a character's number. -/
def escapeDigits? : Char → Option Nat
  | 'x' => some 2
  | 'u' => some 4
  | 'U' => some 8
  | _ => none

/-- The character of an escape, behind its backslash, and what follows. -/
def readEscape : List Glyph → Option (Char × List Glyph)
  | [] => none
  | g :: rest =>
    match escapeDigits? g.char with
    | none => (escaped? g.char).map (·, rest)
    | some count => do
      let digits := (rest.take count).map (·.char)
      if digits.length < count then none
      let n ← parseDigits? 16 digits
      if n.isValidChar then return (Char.ofNat n, rest.drop count) else none

/-- Reads a scalar in double quotes, behind the first one. An escaped line break joins two lines
without a space. -/
def readDoubleQuoted : Nat → List Char → Gap → List Glyph → QuotedScalar
  | 0, _, _, _ => none
  | _ + 1, _, _, [] => none
  | fuel + 1, text, gap, g :: rest =>
    let c := g.char
    let before := gap.chars.reverse ++ text
    if isBlank c || isBreak c then readDoubleQuoted fuel text (gap.push c) rest
    else if endsDocument (g :: rest) then none
    else if c = '"' then some (before.reverse, rest)
    else if c = '\\' then
      if rest.head?.any (isBreak ·.char) then
        readDoubleQuoted fuel before Gap.escaped (rest.drop 1)
      else do
        let (d, rest) ← readEscape rest
        readDoubleQuoted fuel (d :: before) {} rest
    else readDoubleQuoted fuel (c :: before) {} rest

/-! ### Block scalars -/

/-- What becomes of the line breaks at the end of a block scalar. -/
inductive Chomping where
  | strip | clip | keep
  deriving DecidableEq, Repr

def chomping? : Char → Option Chomping
  | '-' => some .strip
  | '+' => some .keep
  | _ => none

/-- The head of a block scalar: chomping and indentation, in either order. -/
def readBlockHead (gs : List Glyph) : Option (Chomping × Option Nat × List Glyph) :=
  let chomping (gs : List Glyph) : Option Chomping × List Glyph :=
    match gs with
    | g :: rest =>
      match chomping? g.char with
      | some c => (some c, rest)
      | none => (none, gs)
    | [] => (none, [])
  let (early, gs) := chomping gs
  let (digit, gs) :=
    match gs with
    | g :: rest =>
      match digit? 10 g.char with
      | some n => (some n, rest)
      | none => (none, gs)
    | [] => (none, [])
  let (late, gs) := if early.isNone && digit.isSome then chomping gs else (none, gs)
  if digit = some 0 then none else some ((early <|> late).getD .clip, digit, gs)

/-- Line breaks and indentation before a line of a block scalar. -/
structure Indentation where
  breaks : List Char
  /-- The widest indentation so far. -/
  widest : Nat
  rest : List Glyph

/-- Reads line breaks and indentation, the latter up to `indent` if that is known. -/
def readIndentation (indent : Option Nat) : List Char → Nat → List Glyph → Option Indentation
  | breaks, widest, [] => some { breaks := breaks.reverse, widest, rest := [] }
  | breaks, widest, g :: rest =>
    let isBefore := indent.all (g.column < ·)
    if g.char = ' ' && isBefore then readIndentation indent breaks widest rest
    else
      let widest := max widest g.column
      if g.char = '\t' && isBefore then none
      else if isBreak g.char then readIndentation indent (g.char :: breaks) widest rest
      else some { breaks := breaks.reverse, widest, rest := g :: rest }

/-- The lines of a block scalar, up to the last one. -/
structure BlockLines where
  text : List Char := []
  /-- The line break behind the last line. -/
  ending : List Char := []
  /-- Further line breaks. -/
  trailing : List Char := []
  /-- The last line began with a blank. -/
  afterBlank : Bool := false
  rest : List Glyph

/-- Reads the lines that stand at the indentation. -/
def readBlockLines (folds : Bool) (indent : Nat) : Nat → BlockLines → Option BlockLines
  | 0, _ => none
  | fuel + 1, b =>
    match b.rest with
    | [] => some b
    | g :: _ =>
      if g.column ≠ indent then some b
      else do
        let onBlank := isBlank g.char
        let joint :=
          if folds && b.ending = ['\n'] && !b.afterBlank && !onBlank then
            if b.trailing.isEmpty then [' '] else []
          else b.ending
        let (line, rest) := takeWhile (!isBreak ·) b.rest
        let next ← readIndentation (some indent) [] 0 (rest.drop 1)
        readBlockLines folds indent fuel
          { text := b.text ++ joint ++ b.trailing ++ line
            ending := (rest.take 1).map (·.char)
            trailing := next.breaks
            afterBlank := onBlank
            rest := next.rest }

/-- Reads a block scalar, behind its bar or angle. It is indented deeper than what is around it,
which stands at `around` if it stands anywhere. -/
def readBlock (folds : Bool) (around : Option Nat) (gs : List Glyph) :
    Option (List Char × List Glyph) := do
  let (chomping, digit, gs) ← readBlockHead gs
  let gs ← restOfLine? gs
  let indent := digit.map (around.getD 0 + ·)
  let first ← readIndentation indent [] 0 gs
  let indent := indent.getD (max first.widest (max 1 ((around.map (· + 1)).getD 0)))
  let b ← readBlockLines folds indent (gs.length + 1)
    { trailing := first.breaks, rest := first.rest }
  return match chomping with
    | .strip => (b.text, b.rest)
    | .clip => (b.text ++ b.ending, b.rest)
    | .keep => (b.text ++ b.ending ++ b.trailing, b.rest)

end StreamMux.Yaml
