import Teller.Yaml.Scalar.Basic

/-!
# Tokens

A text is a sequence of tokens. The start and the end of a block collection are tokens too, though
only the indentation shows them, and so is the start of a key, which only its colon shows.
-/

namespace Teller.Yaml

inductive Token where
  | streamEnd
  /-- The directive that names a version. -/
  | version (major minor : Nat)
  /-- The directive that says what a handle stands for. -/
  | handle (handle lead : String)
  | documentStart
  | documentEnd
  | blockSequenceStart
  | blockMappingStart
  | blockEnd
  | flowSequenceStart
  | flowSequenceEnd
  | flowMappingStart
  | flowMappingEnd
  /-- The sign before an item of a block sequence. -/
  | item
  /-- The sign between the parts of a flow collection. -/
  | comma
  | key
  | value
  | alias (name : String)
  | anchor (name : String)
  | tag (handle suffix : String)
  | scalar (text : String) (style : Style)
deriving Repr, DecidableEq, Inhabited

end Teller.Yaml
