import StreamMux.Text.Number
import StreamMux.Yaml.Token

/-!
The nodes of a document: scalars, sequences and mappings, and references to nodes that have a name.
How a scalar was written is kept, because what is quoted is no number.
-/
namespace StreamMux.Yaml

/-- A document, or a part of one. -/
inductive Node where
  | scalar (text : String) (form : ScalarForm) (tag : Option Tag)
  | sequence (items : List Node)
  | mapping (entries : List (Node × Node))
  /-- Stands for the node with this number. -/
  | reference (number : Nat)
  deriving Inhabited

/-- Nothing at all where a node could stand. -/
def Node.absent : Node := scalar "" .plain none

/-- A document, and the nodes that references stand for, by their numbers. -/
structure Document where
  root : Node := .absent
  named : List (Nat × Node) := []
  deriving Inhabited

/-- A number without sign: decimal without zeros in front, or behind a mark for its base. -/
def unsignedNumber? (digits : List Char) : Option Nat :=
  match digits with
  | '0' :: 'x' :: rest => parseDigits? 16 rest
  | '0' :: 'o' :: rest => parseDigits? 8 rest
  | '0' :: 'b' :: rest => parseDigits? 2 rest
  | '0' :: _ :: _ => none
  | _ => parseDigits? 10 digits

/-- The tag of whole numbers. -/
def integerTag : Tag := Tag.ofString "tag:yaml.org,2002:int"

/-- A scalar that may spell a number: a plain one, or a literal one that is tagged so. -/
def maySpellNumber (form : ScalarForm) (tag : Option Tag) : Bool :=
  form = .plain || (form = .literal && tag = some integerTag)

namespace Document

/-- The node itself, or the one that it stands for. -/
def resolve (d : Document) : Node → Node
  | .reference number => (d.named.lookup number).getD .absent
  | node => node

def text? (d : Document) (node : Node) : Option String :=
  match d.resolve node with
  | .scalar text _ _ => some text
  | _ => none

/-- The entries of a mapping; nothing at all stands for a mapping without entries. -/
def entries? (d : Document) (node : Node) : Option (List (Node × Node)) :=
  match d.resolve node with
  | .mapping entries => some entries
  | .scalar "" .plain _ => some []
  | _ => none

/-- The number that a scalar spells, if it is below the bound. -/
def natural? (d : Document) (bound : Nat) (node : Node) : Option Nat :=
  match d.resolve node with
  | .scalar text form tag =>
    let digits :=
      match text.toList with
      | '+' :: rest => rest
      | chars => chars
    if maySpellNumber form tag then (unsignedNumber? digits).filter (· < bound) else none
  | _ => none

end Document
end StreamMux.Yaml
