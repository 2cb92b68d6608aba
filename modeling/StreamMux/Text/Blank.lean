/-!
Blank characters of Unicode, and cutting a text at them.
-/
namespace StreamMux

/-- A character that separates words, in any script. -/
def isBlankChar (c : Char) : Bool :=
  let n := c.toNat
  (9 ≤ n && n ≤ 13) || n = 0x20 || n = 0x85 || n = 0xA0 || n = 0x1680
    || (0x2000 ≤ n && n ≤ 0x200A) || n = 0x2028 || n = 0x2029 || n = 0x202F || n = 0x205F
    || n = 0x3000

/-- A text without the blanks at its two ends. -/
def trimBlanks (cs : List Char) : List Char :=
  ((cs.dropWhile isBlankChar).reverse.dropWhile isBlankChar).reverse

/-- What stands before the first blank, and what stands behind it. -/
def cutAtBlank? (cs : List Char) : Option (List Char × List Char) :=
  match cs.span (!isBlankChar ·) with
  | (_, []) => none
  | (front, _ :: back) => some (front, back)

/-- What stands before the last blank, and what stands behind it. -/
def cutAtLastBlank? (cs : List Char) : Option (List Char × List Char) :=
  (cutAtBlank? cs.reverse).map fun (back, front) => (front.reverse, back.reverse)

/-- The words of a text, from its characters and the word that has begun. -/
def wordsFrom : List Char → List Char → List (List Char)
  | word, [] => if word.isEmpty then [] else [word.reverse]
  | word, c :: cs =>
    if !isBlankChar c then wordsFrom (c :: word) cs
    else if word.isEmpty then wordsFrom [] cs
    else word.reverse :: wordsFrom [] cs

/-- The stretches of a text between blanks. -/
def words (cs : List Char) : List (List Char) := wordsFrom [] cs

end StreamMux
