/-!
Colours on a terminal. Without colours a text stays as it is.
-/
namespace StreamMux.Console

/-- How a text is shown. -/
inductive Style where
  | red | green | yellow | cyan | dimmed | boldCyan
  deriving DecidableEq, Repr

/-- The codes that switch a style on. -/
def Style.codes : Style → String
  | red => "31"
  | green => "32"
  | yellow => "33"
  | cyan => "36"
  | dimmed => "2"
  | boldCyan => "1;36"

/-- A text in a style, if colours are wanted. -/
def paint (colored : Bool) (style : Style) (text : String) : String :=
  if colored then "\x1b[" ++ style.codes ++ "m" ++ text ++ "\x1b[0m" else text

end StreamMux.Console
