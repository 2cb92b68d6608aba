/-!
The tokens of a document: marks of its structure, scalars with the form in which they were
written, and names that are given to nodes or stand for them.
-/
namespace StreamMux.Yaml

/-- How a scalar is written. -/
inductive ScalarForm where
  | plain
  | quoted
  /-- Line by line, behind a bar. -/
  | literal
  /-- Line by line, with lines that flow together. -/
  | folded
  deriving DecidableEq, Repr, Inhabited

/-- A tag, as the bytes that it stands for once its escapes are undone. -/
abbrev Tag := List UInt8

def Tag.ofString (text : String) : Tag := text.toUTF8.toList

inductive Token where
  | version (major minor : Nat)
  /-- A shorthand, with what stands for it in tags. -/
  | shorthand (handle : String) (expansion : Tag)
  | documentStart
  | documentEnd
  | blockSequenceStart
  | blockMappingStart
  /-- The innermost block ends, which began by its indentation. -/
  | blockEnd
  | flowSequenceStart
  | flowSequenceEnd
  | flowMappingStart
  | flowMappingEnd
  | blockEntry
  | flowEntry
  | key
  | value
  /-- A name in the place of the node that has it. -/
  | reference (name : String)
  /-- The next node gets a name. -/
  | anchor (name : String)
  /-- The next node gets a tag; without a handle the suffix is all of it. -/
  | tag (handle : String) (suffix : Tag)
  | scalar (text : String) (form : ScalarForm)
  deriving DecidableEq, Repr, Inhabited

end StreamMux.Yaml
